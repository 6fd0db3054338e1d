import TreeQuery.Pattern.Node

/- All nodes of a tree as a list. The descriptions that a tree lists are the descriptions
   among its nodes. Combining siblings and attaching a constraint put a node or two on top,
   and behind these come the nodes that were there before, as they were. -/
set_option autoImplicit false

namespace TreeQuery

namespace Node

mutual

-- Every node with all that is below it, from the top on in the order of the pattern text.
def nodes : Node → List Node
  | described description child => described description child :: nodesOfChild child
  | coordination c members => coordination c members :: nodesOfMembers members

def nodesOfChild : Option Node → List Node
  | none => []
  | some node => nodes node

def nodesOfMembers : List Node → List Node
  | [] => []
  | node :: others => nodes node ++ nodesOfMembers others

end

theorem nodes_of_members (members : List Node) :
    nodesOfMembers members = members.flatMap nodes := by
  induction members with
  | nil => rfl
  | cons node members ih => rw [nodesOfMembers, ih, List.flatMap_cons]

mutual

theorem described_nodes_eq : (node : Node) → node.describedNodes = node.nodes.filterMap described?
  | described description child => by
      have top : (described description child).described? = some ⟨description, child⟩ := rfl
      rw [describedNodes, nodes, List.filterMap_cons_some top, described_nodes_of_child child]
  | coordination c members => by
      have top : (coordination c members).described? = none := rfl
      rw [describedNodes, nodes, List.filterMap_cons_none top, described_nodes_of_members members]

theorem described_nodes_of_child : (child : Option Node) →
    describedNodesOfChild child = (nodesOfChild child).filterMap described?
  | none => rfl
  | some node => described_nodes_eq node

theorem described_nodes_of_members : (members : List Node) →
    describedNodesOfMembers members = (nodesOfMembers members).filterMap described?
  | [] => rfl
  | node :: members => by
      rw [describedNodesOfMembers, nodesOfMembers, List.filterMap_append, described_nodes_eq node,
        described_nodes_of_members members]

end

theorem coordinate_nodes (conjunctive : Bool) (members : List Node) :
    (coordinate conjunctive members).nodes =
      (if members.length = 1 then [] else [coordination ⟨conjunctive, false, false⟩ members]) ++
        members.flatMap nodes := by
  match members with
  | [] => rfl
  | [only] => rw [if_pos List.length_singleton, List.nil_append, List.flatMap_singleton, coordinate]
  | first :: second :: others =>
      have several : (first :: second :: others).length ≠ 1 := by simp
      rw [if_neg several, List.singleton_append, ← nodes_of_members]
      rfl

theorem coordinate_described_nodes (conjunctive : Bool) (members : List Node) :
    (coordinate conjunctive members).describedNodes = members.flatMap describedNodes := by
  have above : (if members.length = 1 then []
      else [coordination ⟨conjunctive, false, false⟩ members]).filterMap described? = [] := by
    split <;> rfl
  rw [described_nodes_eq, coordinate_nodes, List.filterMap_append, above, List.nil_append,
    List.filterMap_flatMap]
  simp only [← described_nodes_eq]

theorem coordinate_descriptions (conjunctive : Bool) (members : List Node) :
    (coordinate conjunctive members).descriptions = members.flatMap descriptions := by
  rw [descriptions, coordinate_described_nodes, List.map_flatMap]
  rfl

end Node

namespace Described

variable (top : Described) (child : Node)

theorem attach_eq_coordinate : top.attach child =
    ⟨top.description, some (Node.coordinate true (top.child.toList ++ [child]))⟩ := by
  obtain ⟨description, earlier⟩ := top
  cases earlier <;> rfl

theorem attach_description : (top.attach child).description = top.description := by
  rw [attach_eq_coordinate]

theorem attach_nodes : (top.attach child).toNode.nodes = (top.attach child).toNode ::
    ((top.child.toList.map fun earlier => .coordination ⟨true, false, false⟩ [earlier, child]) ++
      (top.child.toList.flatMap Node.nodes ++ child.nodes)) := by
  have below := Node.coordinate_nodes true (top.child.toList ++ [child])
  rw [List.flatMap_append, List.flatMap_singleton] at below
  have added : (if (top.child.toList ++ [child]).length = 1 then []
      else [Node.coordination ⟨true, false, false⟩ (top.child.toList ++ [child])]) =
        top.child.toList.map
          fun earlier => .coordination ⟨true, false, false⟩ [earlier, child] := by
    cases top.child <;> rfl
  rw [← added, ← below, attach_eq_coordinate]
  rfl

theorem attach_described_nodes : (top.attach child).toNode.describedNodes = top.attach child ::
    (top.child.toList.flatMap Node.describedNodes ++ child.describedNodes) := by
  have below := Node.coordinate_described_nodes true (top.child.toList ++ [child])
  rw [List.flatMap_append, List.flatMap_singleton] at below
  rw [← below, attach_eq_coordinate]
  rfl

theorem attach_descriptions :
    (top.attach child).toNode.descriptions = top.toNode.descriptions ++ child.descriptions := by
  have below : top.child.toList.flatMap Node.describedNodes =
      Node.describedNodesOfChild top.child := by
    cases top.child with
    | none => rfl
    | some earlier => exact List.flatMap_singleton _ earlier
  rw [Node.descriptions, attach_described_nodes, below, List.map_cons, attach_description,
    List.map_append]
  rfl

end Described

end TreeQuery

import TreeQuery.Proofs.Grammar.Modifiers
import TreeQuery.Proofs.Pattern.Nodes

/- How trees are put together: siblings are combined, a constraint is attached to a
   description, a modifier is set on a node. None of it loses, repeats or moves a node, and
   a modifier sets one flag of the node at the top and changes nothing else. So however a
   tree was put together, it lists the descriptions that went into it, each with the
   modifiers that were set on it. -/
set_option autoImplicit false

namespace TreeQuery

def Description.withModifier (modifier : Modifier) (carried : Bool) (description : Description) :
    Description :=
  match modifier with
  | .negation => { description with negated := carried }
  | .option => { description with optional := carried }

def Coordination.withModifier (modifier : Modifier) (carried : Bool) (c : Coordination) :
    Coordination :=
  match modifier with
  | .negation => { c with negated := carried }
  | .option => { c with optional := carried }

def Described.withModifier (modifier : Modifier) (carried : Bool) (top : Described) : Described :=
  { top with description := top.description.withModifier modifier carried }

namespace Node

def withModifier (modifier : Modifier) (carried : Bool) : Node → Node
  | described description child => described (description.withModifier modifier carried) child
  | coordination c members => coordination (c.withModifier modifier carried) members

-- The second tree is the first one with the modifier on the node at the top. With its flag as it
-- was before, the tree is the first one again, so nothing else in it is changed.
structure Marked (modifier : Modifier) (before after : Node) : Prop where
  carries : after.carries modifier = true
  restored : after.withModifier modifier (before.carries modifier) = before
  below : after.nodes.tail = before.nodes.tail
  count : after.describedNodes.length = before.describedNodes.length
  descriptions : after.describedNodes = if before.described?.isSome
    then before.describedNodes.modifyHead (Described.withModifier modifier true)
    else before.describedNodes

section Flags

variable (modifier : Modifier) (carried : Bool) (node : Node)

theorem carries_with_modifier :
    (node.withModifier modifier carried).carries modifier = carried := by
  cases modifier <;> cases node <;> rfl

theorem with_modifier_again (again : Bool) :
    (node.withModifier modifier carried).withModifier modifier again =
      node.withModifier modifier again := by
  cases modifier <;> cases node <;> rfl

theorem with_modifier_carries : node.withModifier modifier (node.carries modifier) = node := by
  cases modifier <;> cases node <;> rfl

theorem with_modifier_below :
    (node.withModifier modifier carried).nodes.tail = node.nodes.tail := by
  cases node <;> rfl

theorem mark_eq_with_modifier : modifier.mark node = node.withModifier modifier true := by
  cases modifier <;> cases node <;> rfl

theorem mark_described : (modifier.mark node).described?.isSome = node.described?.isSome := by
  cases modifier <;> cases node <;> rfl

theorem mark_described_nodes : (modifier.mark node).describedNodes = if node.described?.isSome
    then node.describedNodes.modifyHead (Described.withModifier modifier true)
    else node.describedNodes := by
  rw [mark_eq_with_modifier]
  cases node <;> rfl

theorem mark_marked : Marked modifier node (modifier.mark node) where
  carries := by rw [mark_eq_with_modifier, carries_with_modifier]
  restored := by rw [mark_eq_with_modifier, with_modifier_again, with_modifier_carries]
  below := by rw [mark_eq_with_modifier, with_modifier_below]
  count := by
    rw [mark_described_nodes]
    split
    · exact List.length_modifyHead
    · rfl
  descriptions := mark_described_nodes modifier node

theorem mark_descriptions : (modifier.mark node).descriptions = if node.described?.isSome
    then node.descriptions.modifyHead (Description.withModifier modifier true)
    else node.descriptions := by
  rw [mark_eq_with_modifier]
  cases node <;> rfl

end Flags

end Node

theorem Described.with_modifier_to_node (modifier : Modifier) (top : Described) :
    (top.withModifier modifier true).toNode = modifier.mark top.toNode := by
  rw [Node.mark_eq_with_modifier]
  rfl

-- The ways in which a tree can be put together, from descriptions with nothing below them.

mutual

inductive TopPlan where
  | describe (description : Description)
  | attach (top : TopPlan) (child : Plan)
  | mark (modifier : Modifier) (top : TopPlan)

inductive Plan where
  | top (plan : TopPlan)
  | coordinate (conjunctive : Bool) (members : List Plan)
  | mark (modifier : Modifier) (plan : Plan)

end

mutual

def TopPlan.build : TopPlan → Described
  | .describe description => ⟨description, none⟩
  | .attach top child => top.build.attach child.build
  | .mark modifier top => top.build.withModifier modifier true

def Plan.build : Plan → Node
  | .top plan => plan.build.toNode
  | .coordinate conjunctive members => Node.coordinate conjunctive (Plan.buildAll members)
  | .mark modifier plan => modifier.mark plan.build

def Plan.buildAll : List Plan → List Node
  | [] => []
  | plan :: plans => plan.build :: Plan.buildAll plans

end

mutual

def Plan.isDescription : Plan → Bool
  | .top _ => true
  | .coordinate _ members => Plan.isOneDescription members
  | .mark _ plan => plan.isDescription

def Plan.isOneDescription : List Plan → Bool
  | [only] => only.isDescription
  | _ => false

end

-- The descriptions that go into the plan, in order. A modifier falls on the first of them if
-- it is the node at the top.

mutual

def TopPlan.listed : TopPlan → List Description
  | .describe description => [description]
  | .attach top child => top.listed ++ child.listed
  | .mark modifier top => top.listed.modifyHead (Description.withModifier modifier true)

def Plan.listed : Plan → List Description
  | .top plan => plan.listed
  | .coordinate _ members => Plan.listedAll members
  | .mark modifier plan => if plan.isDescription
      then plan.listed.modifyHead (Description.withModifier modifier true)
      else plan.listed

def Plan.listedAll : List Plan → List Description
  | [] => []
  | plan :: plans => plan.listed ++ Plan.listedAll plans

end

mutual

theorem Plan.build_described : (plan : Plan) → plan.build.described?.isSome = plan.isDescription
  | .top plan => rfl
  | .coordinate conjunctive members => by
      rw [build, isDescription, Plan.build_all_described conjunctive members]
  | .mark modifier plan => by
      rw [build, isDescription, Node.mark_described, Plan.build_described plan]

theorem Plan.build_all_described (conjunctive : Bool) : (plans : List Plan) →
    (Node.coordinate conjunctive (buildAll plans)).described?.isSome = isOneDescription plans
  | [] => rfl
  | [only] => by
      rw [isOneDescription]
      exact Plan.build_described only
  | _ :: _ :: _ => rfl

end

mutual

theorem TopPlan.build_descriptions : (plan : TopPlan) →
    plan.build.toNode.descriptions = plan.listed
  | .describe description => rfl
  | .attach top child => by
      rw [TopPlan.build, TopPlan.listed, Described.attach_descriptions,
        TopPlan.build_descriptions top, Plan.build_descriptions child]
  | .mark modifier top => by
      rw [TopPlan.build, TopPlan.listed, Described.with_modifier_to_node, Node.mark_descriptions,
        TopPlan.build_descriptions top]
      rfl

theorem Plan.build_descriptions : (plan : Plan) → plan.build.descriptions = plan.listed
  | .top plan => TopPlan.build_descriptions plan
  | .coordinate conjunctive members => by
      rw [Plan.build, Plan.listed, Node.coordinate_descriptions,
        Plan.build_all_descriptions members]
  | .mark modifier plan => by
      rw [Plan.build, Plan.listed, Node.mark_descriptions, Plan.build_described plan,
        Plan.build_descriptions plan]

theorem Plan.build_all_descriptions : (plans : List Plan) →
    (Plan.buildAll plans).flatMap Node.descriptions = Plan.listedAll plans
  | [] => rfl
  | plan :: plans => by
      rw [Plan.buildAll, Plan.listedAll, List.flatMap_cons, Plan.build_descriptions plan,
        Plan.build_all_descriptions plans]

end

-- A modifier on a group of one falls on its member, and on a larger group it stays with the group.
example (one other : Description) :
    (Plan.mark .negation (.coordinate false [.top (.describe one)])).build.descriptions =
        [{ one with negated := true }] ∧
      (Plan.mark .negation
          (.coordinate false [.top (.describe one), .top (.describe other)])).build.descriptions =
        [one, other] :=
  ⟨rfl, rfl⟩

namespace Node

/-- Nothing is lost when trees are put together. Siblings are combined with all their nodes in
order, however many they are, and an attached constraint comes behind what the description had
below it. A modifier sets its flag on the node at the top and leaves all else as it was. However
these steps are combined, the tree lists the descriptions that went into it, with the modifiers
that were set on them. -/
theorem assembly_lossless :
    (∀ (conjunctive : Bool) (members : List Node),
      (coordinate conjunctive members).describedNodes = members.flatMap describedNodes ∧
        (coordinate conjunctive members).nodes =
          (if members.length = 1 then [] else [coordination ⟨conjunctive, false, false⟩ members]) ++
            members.flatMap nodes) ∧
    (∀ (top : Described) (child : Node),
      (top.attach child).description = top.description ∧
        (top.attach child).toNode.describedNodes =
          top.attach child :: (top.child.toList.flatMap describedNodes ++ child.describedNodes) ∧
        (top.attach child).toNode.nodes = (top.attach child).toNode ::
          ((top.child.toList.map
              fun earlier => coordination ⟨true, false, false⟩ [earlier, child]) ++
            (top.child.toList.flatMap nodes ++ child.nodes))) ∧
    (∀ node : Node, Marked .negation node node.negate ∧ Marked .option node node.makeOptional) ∧
    ∀ plan : Plan, plan.build.descriptions = plan.listed := by
  refine ⟨?_, ?_, ?_, Plan.build_descriptions⟩
  · intro conjunctive members
    exact ⟨coordinate_described_nodes conjunctive members, coordinate_nodes conjunctive members⟩
  · intro top child
    exact ⟨top.attach_description child, top.attach_described_nodes child, top.attach_nodes child⟩
  · intro node
    exact ⟨mark_marked .negation node, mark_marked .option node⟩

end Node

end TreeQuery

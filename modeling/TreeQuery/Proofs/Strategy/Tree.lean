import Mathlib.Logic.Basic
import TreeQuery.Pattern.Printer
import TreeQuery.Relation.Resolver
import TreeQuery.Proofs.Pattern.Same

/- Strategies in a tree: the head finders and basic categories that its relations carry.
   They can be exchanged without a change to anything else, and only their names count
   when trees are compared. -/
set_option autoImplicit false

namespace TreeQuery

-- Does the relation look at the basic categories of the nodes on its chain?
def RelationKind.comparesCategories : RelationKind → Bool
  | chain _ argument => argument.categoryMatch
  | _ => false

namespace Relation

-- A head finder for a head relation and basic categories for a chain that compares them,
-- and nothing that is not needed.
structure Carries (category : BasicCategory) (finder : HeadFinder) (relation : Relation) :
    Prop where
  headFinder_eq : relation.headFinder =
    if relation.kind.isHeadRelation then some finder else none
  basicCategory_eq : relation.basicCategory =
    if relation.kind.comparesCategories then some category else none

def equip (resolver : Resolver) (relation : Relation) : Relation :=
  ⟨relation.kind, if relation.kind.isHeadRelation then some resolver.headFinder else none,
    if relation.kind.comparesCategories then some resolver.basicCategory else none⟩

theorem same_equip (one other : Resolver) (relation : Relation) :
    (relation.equip one == relation.equip other) = true ↔
      (relation.kind.isHeadRelation = true → one.headFinder.name = other.headFinder.name) ∧
        (relation.kind.comparesCategories = true →
          one.basicCategory.name = other.basicCategory.name) := by
  have kinds := BEq.refl relation.kind
  have finders : (one.headFinder == other.headFinder) = true ↔
      one.headFinder.name = other.headFinder.name := beq_iff_eq (α := Text)
  have categories : (one.basicCategory == other.basicCategory) = true ↔
      one.basicCategory.name = other.basicCategory.name := beq_iff_eq (α := Text)
  change (relation.kind == relation.kind && ((if _ then _ else _) == (if _ then _ else _) &&
    (if _ then _ else _) == (if _ then _ else _))) = true ↔ _
  rw [kinds, Bool.true_and, Bool.and_eq_true]
  apply and_congr
  · cases relation.kind.isHeadRelation
    · simp
    · simpa using finders
  · cases relation.kind.comparesCategories
    · simp
    · simpa using categories

end Relation

variable (change : Relation → Relation)

def Description.mapRelation (description : Description) : Description :=
  { description with relation := change description.relation }

namespace Node

mutual

def mapRelations : Node → Node
  | described description child =>
      described (description.mapRelation change) (mapRelationsOfChild child)
  | coordination c members => coordination c (mapRelationsOfMembers members)

def mapRelationsOfChild : Option Node → Option Node
  | none => none
  | some node => some (mapRelations node)

def mapRelationsOfMembers : List Node → List Node
  | [] => []
  | node :: nodes => mapRelations node :: mapRelationsOfMembers nodes

end

def withoutStrategies (node : Node) : Node :=
  node.mapRelations fun relation => .ofKind relation.kind

def HasHeadRelation (node : Node) : Prop :=
  ∃ description ∈ node.descriptions, description.relation.kind.isHeadRelation = true

def ComparesCategories (node : Node) : Prop :=
  ∃ description ∈ node.descriptions, description.relation.kind.comparesCategories = true

end Node

def Described.mapRelations (node : Described) : Described :=
  ⟨node.description.mapRelation change, Node.mapRelationsOfChild change node.child⟩

namespace Node

theorem map_relations_members (nodes : List Node) :
    mapRelationsOfMembers change nodes = nodes.map (mapRelations change) := by
  induction nodes with
  | nil => rfl
  | cons node nodes ih => exact congrArg (mapRelations change node :: ·) ih

-- However a tree is put together, its relations can be changed before or afterwards.

theorem map_relations_negate (node : Node) :
    node.negate.mapRelations change = (node.mapRelations change).negate := by
  cases node <;> rfl

theorem map_relations_make_optional (node : Node) :
    node.makeOptional.mapRelations change = (node.mapRelations change).makeOptional := by
  cases node <;> rfl

theorem map_relations_coordinate (conjunctive : Bool) (nodes : List Node) :
    (coordinate conjunctive nodes).mapRelations change =
      coordinate conjunctive (nodes.map (mapRelations change)) := by
  rw [← map_relations_members]
  match nodes with
  | [] => rfl
  | [_] => rfl
  | _ :: _ :: _ => rfl

theorem map_relations_attach (top : Described) (child : Node) :
    (top.attach child).mapRelations change =
      (top.mapRelations change).attach (child.mapRelations change) := by
  obtain ⟨description, earlier⟩ := top
  cases earlier <;> rfl

mutual

theorem described_map_relations : (node : Node) →
    (node.mapRelations change).describedNodes =
      node.describedNodes.map (Described.mapRelations change)
  | described description child => by
      rw [mapRelations, describedNodes, describedNodes, List.map_cons,
        described_map_relations_child child]
      rfl
  | coordination c members => by
      rw [mapRelations, describedNodes, describedNodes]
      exact described_map_relations_members members

theorem described_map_relations_child : (child : Option Node) →
    describedNodesOfChild (mapRelationsOfChild change child) =
      (describedNodesOfChild child).map (Described.mapRelations change)
  | none => rfl
  | some node => described_map_relations node

theorem described_map_relations_members : (nodes : List Node) →
    describedNodesOfMembers (mapRelationsOfMembers change nodes) =
      (describedNodesOfMembers nodes).map (Described.mapRelations change)
  | [] => rfl
  | node :: nodes => by
      rw [mapRelationsOfMembers, describedNodesOfMembers, describedNodesOfMembers,
        List.map_append, described_map_relations node, described_map_relations_members nodes]

end

theorem descriptions_map_relations (node : Node) :
    (node.mapRelations change).descriptions =
      node.descriptions.map (Description.mapRelation change) := by
  rw [descriptions, descriptions, described_map_relations, List.map_map, List.map_map]
  rfl

section Render

variable {change}

theorem render_with_map_relation (sameKind : ∀ relation, (change relation).kind = relation.kind)
    (description : Description) (hasChild : Bool) (body : Text) :
    (description.mapRelation change).renderWith hasChild body =
      description.renderWith hasChild body := by
  unfold Description.renderWith Relation.render Relation.isRoot Description.mapRelation
  simp only [sameKind]

mutual

theorem render_map_relations (sameKind : ∀ relation, (change relation).kind = relation.kind) :
    (node : Node) → (inConjunction : Bool) →
      (node.mapRelations change).renderIn inConjunction = node.renderIn inConjunction
  | described description none, _ => render_with_map_relation sameKind description false _
  | described description (some node), _ => by
      have below := render_map_relations sameKind node false
      rw [mapRelations, renderIn, renderIn, render_with_map_relation sameKind,
        mapRelationsOfChild, renderChild, renderChild, below]
      rfl
  | coordination c members, inConjunction => by
      rw [mapRelations, renderIn, renderIn, render_map_relations_members sameKind members]

theorem render_map_relations_members
    (sameKind : ∀ relation, (change relation).kind = relation.kind) :
    (nodes : List Node) → (inConjunction : Bool) →
      renderMembers inConjunction (mapRelationsOfMembers change nodes) =
        renderMembers inConjunction nodes
  | [], _ => rfl
  | node :: nodes, inConjunction => by
      rw [mapRelationsOfMembers, renderMembers, renderMembers,
        render_map_relations sameKind node, render_map_relations_members sameKind nodes]

end

end Render

variable {change} (change' : Relation → Relation)

mutual

theorem map_relations_comp (kept : ∀ relation, change' (change relation) = change' relation) :
    (node : Node) → (node.mapRelations change).mapRelations change' = node.mapRelations change'
  | described description child => by
      rw [mapRelations, mapRelations, mapRelations, map_relations_comp_child kept child]
      unfold Description.mapRelation
      simp only [kept]
  | coordination c members => by
      rw [mapRelations, mapRelations, mapRelations, map_relations_comp_members kept members]

theorem map_relations_comp_child
    (kept : ∀ relation, change' (change relation) = change' relation) :
    (child : Option Node) → mapRelationsOfChild change' (mapRelationsOfChild change child) =
      mapRelationsOfChild change' child
  | none => rfl
  | some node => congrArg some (map_relations_comp kept node)

theorem map_relations_comp_members
    (kept : ∀ relation, change' (change relation) = change' relation) :
    (nodes : List Node) → mapRelationsOfMembers change' (mapRelationsOfMembers change nodes) =
      mapRelationsOfMembers change' nodes
  | [] => rfl
  | node :: nodes => by
      rw [mapRelationsOfMembers, mapRelationsOfMembers, mapRelationsOfMembers,
        map_relations_comp kept node, map_relations_comp_members kept nodes]

end

theorem same_map_relation (description : Description) :
    (description.mapRelation change == description.mapRelation change') =
      (change description.relation == change' description.relation) := by
  obtain ⟨relation, negated, optional, descriptor, descriptorNegated, categoryMatch, capture, link,
    backreference, groups⟩ := description
  change (change relation == change' relation && (negated == negated && (optional == optional &&
    (descriptor == descriptor && (descriptorNegated == descriptorNegated &&
      (categoryMatch == categoryMatch && (capture == capture && (link == link &&
        (backreference == backreference && groups == groups))))))))) = _
  simp only [BEq.refl, Bool.and_self, Bool.and_true]

mutual

theorem same_map_relations : (node : Node) →
    (same (node.mapRelations change) (node.mapRelations change') = true ↔
      ∀ top ∈ node.describedNodes,
        (change top.description.relation == change' top.description.relation) = true)
  | described description child => by
      rw [mapRelations, mapRelations, same, same_map_relation, Bool.and_eq_true,
        same_map_relations_child child, describedNodes, List.forall_mem_cons]
  | coordination c members => by
      rw [mapRelations, mapRelations, same, BEq.refl, Bool.true_and,
        same_map_relations_members members, describedNodes]

theorem same_map_relations_child : (child : Option Node) →
    (sameChild (mapRelationsOfChild change child) (mapRelationsOfChild change' child) = true ↔
      ∀ top ∈ describedNodesOfChild child,
        (change top.description.relation == change' top.description.relation) = true)
  | none => by simp [mapRelationsOfChild, sameChild, describedNodesOfChild]
  | some node => same_map_relations node

theorem same_map_relations_members : (nodes : List Node) →
    (sameMembers (mapRelationsOfMembers change nodes) (mapRelationsOfMembers change' nodes) =
        true ↔
      ∀ top ∈ describedNodesOfMembers nodes,
        (change top.description.relation == change' top.description.relation) = true)
  | [] => by simp [mapRelationsOfMembers, sameMembers, describedNodesOfMembers]
  | node :: nodes => by
      rw [mapRelationsOfMembers, mapRelationsOfMembers, sameMembers, Bool.and_eq_true,
        same_map_relations node, same_map_relations_members nodes, describedNodesOfMembers,
        List.forall_mem_append]

end

theorem same_equipped (one other : Resolver) (node : Node) :
    (node.mapRelations (Relation.equip one) == node.mapRelations (Relation.equip other)) = true ↔
      (¬ node.HasHeadRelation ∨ one.headFinder.name = other.headFinder.name) ∧
        (¬ node.ComparesCategories ∨ one.basicCategory.name = other.basicCategory.name) := by
  have each := @same_map_relations (Relation.equip one) (Relation.equip other) node
  have all : (∀ top ∈ node.describedNodes,
        (top.description.relation.equip one == top.description.relation.equip other) = true) ↔
      ∀ description ∈ node.descriptions,
        (description.relation.equip one == description.relation.equip other) = true := by
    simp [descriptions]
  refine (each.trans all).trans ?_
  simp only [Relation.same_equip, HasHeadRelation, ComparesCategories, ← imp_iff_not_or,
    forall_exists_index, and_imp]
  constructor
  · intro agree
    exact ⟨fun description inside => (agree description inside).1,
      fun description inside => (agree description inside).2⟩
  · intro agree description inside
    exact ⟨agree.1 description inside, agree.2 description inside⟩

end Node

end TreeQuery

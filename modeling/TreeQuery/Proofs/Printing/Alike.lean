import TreeQuery.Pattern.Printer

/- Trees that are the same are printed alike: the strategies of a relation are not printed, and
   regexes are printed as they are written. -/
set_option autoImplicit false

namespace TreeQuery

theorem Descriptor.render_of_same {one other : Descriptor} (same : (one == other) = true) :
    one.render = other.render := by
  cases one with
  | identifier label =>
      cases other with
      | identifier => exact eq_of_beq (α := Text) same
      | _ => cases same
  | regex regex =>
      cases other with
      | regex =>
          have sources := eq_of_beq (α := Text) same
          exact congrArg (fun source => '/' :: source ++ ['/']) sources
      | _ => cases same
  | blank =>
      cases other with
      | blank => rfl
      | _ => cases same
  | unspecified =>
      cases other with
      | unspecified => rfl
      | _ => cases same

theorem ChainArgument.render_of_same {one other : ChainArgument} (same : (one == other) = true) :
    one.render = other.render := by
  obtain ⟨descriptor, negated, categoryMatch⟩ := one
  obtain ⟨descriptor', negated', categoryMatch'⟩ := other
  change (descriptor == descriptor' && (negated == negated' && categoryMatch == categoryMatch')) =
    true at same
  simp only [Bool.and_eq_true, beq_iff_eq] at same
  obtain ⟨descriptors, rfl, rfl⟩ := same
  unfold render
  rw [Descriptor.render_of_same descriptors]

theorem Relation.render_of_same {one other : Relation} (same : (one == other) = true) :
    one.isRoot = other.isRoot ∧ one.render = other.render := by
  obtain ⟨kind, finder, category⟩ := one
  obtain ⟨kind', finder', category'⟩ := other
  change (kind == kind' && (finder == finder' && category == category')) = true at same
  simp only [Bool.and_eq_true] at same
  obtain ⟨kinds, -, -⟩ := same
  cases kind with
  | root =>
      cases kind' with
      | root => exact ⟨rfl, rfl⟩
      | _ => cases kinds
  | plain relation =>
      cases kind' with
      | plain =>
          cases eq_of_beq (α := PlainRelation) kinds
          exact ⟨rfl, rfl⟩
      | _ => cases kinds
  | hasChild index =>
      cases kind' with
      | hasChild =>
          cases eq_of_beq (α := Int) kinds
          exact ⟨rfl, rfl⟩
      | _ => cases kinds
  | childOf index =>
      cases kind' with
      | childOf =>
          cases eq_of_beq (α := Int) kinds
          exact ⟨rfl, rfl⟩
      | _ => cases kinds
  | chain relation argument =>
      cases kind' with
      | chain relation' argument' =>
          change (relation == relation' && argument == argument') = true at kinds
          simp only [Bool.and_eq_true, beq_iff_eq] at kinds
          obtain ⟨rfl, arguments⟩ := kinds
          have inside := argument.render_of_same arguments
          exact ⟨rfl, congrArg (fun text => relation.symbol ++ ['('] ++ text ++ [')']) inside⟩
      | _ => cases kinds

theorem Description.render_of_same {one other : Description} (same : (one == other) = true) :
    one.renderLabel = other.renderLabel ∧ ∀ (hasChild : Bool) (body : Text),
      one.renderWith hasChild body = other.renderWith hasChild body := by
  obtain ⟨relation, negated, optional, descriptor, descriptorNegated, categoryMatch, capture,
    link, backreference, groups⟩ := one
  obtain ⟨relation', negated', optional', descriptor', descriptorNegated', categoryMatch',
    capture', link', backreference', groups'⟩ := other
  change (relation == relation' && (negated == negated' && (optional == optional' &&
    (descriptor == descriptor' && (descriptorNegated == descriptorNegated' &&
      (categoryMatch == categoryMatch' && (capture == capture' && (link == link' &&
        (backreference == backreference' && groups == groups'))))))))) = true at same
  simp only [Bool.and_eq_true, beq_iff_eq] at same
  obtain ⟨relations, rfl, rfl, descriptors, rfl, rfl, rfl, rfl, rfl, rfl⟩ := same
  obtain ⟨roots, related⟩ := relation.render_of_same relations
  constructor
  · unfold renderLabel
    rw [Descriptor.render_of_same descriptors]
  · intro hasChild body
    unfold renderWith
    rw [roots, related]

namespace Node

mutual

theorem render_of_same : (one other : Node) → same one other = true →
    ∀ inConjunction, one.renderIn inConjunction = other.renderIn inConjunction
  | .described description child, .described description' child', alike, inConjunction => by
      rw [same, Bool.and_eq_true] at alike
      obtain ⟨descriptions, children⟩ := alike
      obtain ⟨labels, heads⟩ := description.render_of_same descriptions
      obtain ⟨presence, below⟩ := render_child_of_same child child' children
      rw [renderIn, renderIn, labels, heads, presence, below]
  | .coordination c members, .coordination c' members', alike, inConjunction => by
      rw [same, Bool.and_eq_true, beq_iff_eq] at alike
      obtain ⟨rfl, below⟩ := alike
      rw [renderIn, renderIn, render_members_of_same members members' below]
  | .described _ _, .coordination _ _, alike, _ => by cases alike
  | .coordination _ _, .described _ _, alike, _ => by cases alike

theorem render_child_of_same : (one other : Option Node) → sameChild one other = true →
    one.isSome = other.isSome ∧ renderChild one = renderChild other
  | none, none, _ => ⟨rfl, rfl⟩
  | some one, some other, alike => by
      rw [sameChild] at alike
      rw [renderChild, renderChild, render_of_same one other alike]
      exact ⟨rfl, rfl⟩
  | none, some _, alike => by cases alike
  | some _, none, alike => by cases alike

theorem render_members_of_same : (nodes others : List Node) → sameMembers nodes others = true →
    ∀ inConjunction, renderMembers inConjunction nodes = renderMembers inConjunction others
  | [], [], _, _ => rfl
  | node :: nodes, other :: others, alike, inConjunction => by
      rw [sameMembers, Bool.and_eq_true] at alike
      obtain ⟨heads, tails⟩ := alike
      rw [renderMembers, renderMembers, render_of_same node other heads,
        render_members_of_same nodes others tails]
  | [], _ :: _, alike, _ => by cases alike
  | _ :: _, [], alike, _ => by cases alike

end

end Node

end TreeQuery

import TreeQuery.Proofs.Scope.Listing
import TreeQuery.Proofs.Pattern.Rearranged
import Mathlib.Data.List.Sort

/- What a tree does to the known names depends on which names are known, not on the
   order in which they became known. The branches of a disjunction may therefore trade
   places without any later construct telling the difference. -/
set_option autoImplicit false

namespace TreeQuery

structure Scope.Agrees (one other : Scope) : Prop where
  nodes : ∀ name, name ∈ one.nodes ↔ name ∈ other.nodes
  groups : ∀ name, name ∈ one.groups ↔ name ∈ other.groups

namespace Scope

variable {one other : Scope} {scopes others : List Scope}

theorem Agrees.refl (scope : Scope) : scope.Agrees scope := ⟨fun _ => Iff.rfl, fun _ => Iff.rfl⟩

theorem Agrees.knows (agrees : one.Agrees other) (name : Text) :
    one.knows name = false ↔ other.knows name = false := by
  rw [knows_eq_false_iff, knows_eq_false_iff, agrees.nodes, agrees.groups]

-- The names are listed in order, so that the lists are equal and not just alike.
theorem Agrees.names (agrees : one.Agrees other) : one.names = other.names := by
  apply one.names_increasing.eq_of_mem_iff other.names_increasing
  intro name
  rw [mem_names, mem_names, agrees.nodes, agrees.groups]

theorem mem_joined_of_nonempty {part : Scope → List Text} {before : Scope} {name : Text}
    (merges : ∀ one other, part (merge one other) = union (part one) (part other))
    (nonempty : scopes ≠ []) :
    name ∈ part (before.joined scopes) ↔ ∃ branch ∈ scopes, name ∈ part branch := by
  rw [joined, mem_merge_all merges]
  cases scopes with
  | nil => exact absurd rfl nonempty
  | cons first later =>
      have last : (first :: later).getLastD before ∈ first :: later := by
        rw [List.getLastD_cons]
        exact List.getLastD_mem_cons
      constructor
      · intro inside
        cases inside with
        | inl inLast => exact ⟨_, last, inLast⟩
        | inr inSome => exact inSome
      · intro inSome
        exact .inr inSome

theorem Agrees.joined (start : one.Agrees other)
    (covered : ∀ branch ∈ scopes, ∃ alike ∈ others, branch.Agrees alike)
    (covers : ∀ alike ∈ others, ∃ branch ∈ scopes, branch.Agrees alike) :
    (one.joined scopes).Agrees (other.joined others) := by
  have same : ∀ {part : Scope → List Text},
      (∀ one other, part (merge one other) = union (part one) (part other)) →
        (∀ {one other}, one.Agrees other → ∀ name, name ∈ part one ↔ name ∈ part other) →
          ∀ name, name ∈ part (one.joined scopes) ↔ name ∈ part (other.joined others) := by
    intro part merges parts name
    by_cases nonempty : scopes = []
    · have noneLeft : others = [] := by
        apply List.eq_nil_iff_forall_not_mem.2
        intro alike inside
        obtain ⟨branch, member, -⟩ := covers alike inside
        rw [nonempty] at member
        cases member
      rw [nonempty, noneLeft]
      exact parts start name
    · have nonemptyToo : others ≠ [] := by
        obtain ⟨branch, inside⟩ := List.exists_mem_of_ne_nil scopes nonempty
        obtain ⟨alike, member, -⟩ := covered branch inside
        exact List.ne_nil_of_mem member
      rw [mem_joined_of_nonempty merges nonempty, mem_joined_of_nonempty merges nonemptyToo]
      constructor
      · intro known
        obtain ⟨branch, inside, names⟩ := known
        obtain ⟨alike, member, agrees⟩ := covered branch inside
        exact ⟨alike, member, (parts agrees name).1 names⟩
      · intro known
        obtain ⟨alike, inside, names⟩ := known
        obtain ⟨branch, member, agrees⟩ := covers alike inside
        exact ⟨branch, member, (parts agrees name).2 names⟩
  exact ⟨same (fun _ _ => rfl) Agrees.nodes, same (fun _ _ => rfl) Agrees.groups⟩

theorem Agrees.joined_each (start : one.Agrees other) (each : List.Forall₂ Agrees scopes others) :
    (one.joined scopes).Agrees (other.joined others) := by
  apply start.joined
  · exact related_member each
  · exact related_member each.flip

theorem Agrees.joined_perm (before : Scope) (permutes : scopes.Perm others) :
    (before.joined scopes).Agrees (before.joined others) := by
  apply (Agrees.refl before).joined
  · intro branch inside
    exact ⟨branch, permutes.mem_iff.1 inside, .refl branch⟩
  · intro branch inside
    exact ⟨branch, permutes.mem_iff.2 inside, .refl branch⟩

end Scope

theorem Description.scope_behind_agrees {description : Description} {underNegation : Bool}
    {before beforeToo after : Scope}
    (found : description.scopeBehind true underNegation before = some after)
    (start : before.Agrees beforeToo) :
    ∃ afterToo, description.scopeBehind true underNegation beforeToo = some afterToo ∧
      after.Agrees afterToo := by
  obtain ⟨admitted, rfl⟩ := scope_behind_eq_some.1 found
  have admittedToo : description.Admitted underNegation beforeToo := by
    constructor
    · intro name inside
      exact (start.knows name).1 (admitted.fresh name inside)
    · exact admitted.distinct
    · intro name referred
      exact (start.nodes name).1 (admitted.known name referred)
    · exact admitted.positive
  refine ⟨_, scope_behind_eq_some.2 ⟨admittedToo, rfl⟩, ?_, ?_⟩
  · intro name
    rw [List.mem_append, List.mem_append, start.nodes]
  · intro name
    rw [List.mem_append, List.mem_append, start.groups]

namespace Node

theorem disjuncts_behind_iff {checked underNegation : Bool} {before : Scope} {nodes : List Node}
    {scopes : List Scope} :
    disjunctsBehind checked underNegation nodes before = some scopes ↔
      List.Forall₂ (fun node scope => node.scopeBehind checked underNegation before = some scope)
        nodes scopes := by
  induction nodes generalizing scopes with
  | nil =>
      rw [List.forall₂_nil_left_iff]
      simp only [disjunctsBehind, Option.some.injEq]
      exact eq_comm
  | cons node nodes ih =>
      simp only [disjunctsBehind, Option.bind_eq_some_iff, Option.map_eq_some_iff]
      rw [List.forall₂_cons_left_iff]
      constructor
      · intro found
        obtain ⟨first, here, others, behind, rfl⟩ := found
        exact ⟨first, others, here, ih.1 behind, rfl⟩
      · intro found
        obtain ⟨first, others, here, each, rfl⟩ := found
        exact ⟨first, here, others, ih.2 each, rfl⟩

theorem conjuncts_behind_append {checked underNegation : Bool} (front back : List Node)
    (before : Scope) :
    conjunctsBehind checked underNegation (front ++ back) before =
      (conjunctsBehind checked underNegation front before).bind
        (conjunctsBehind checked underNegation back) := by
  induction front generalizing before with
  | nil => rfl
  | cons node front ih =>
      simp only [List.cons_append, conjunctsBehind, Option.bind_assoc]
      congr 1
      funext middle
      exact ih middle

mutual

theorem scope_behind_agrees : (node : Node) → ∀ {underNegation : Bool}
    {before beforeToo after : Scope}, node.scopeBehind true underNegation before = some after →
      before.Agrees beforeToo → ∃ afterToo,
        node.scopeBehind true underNegation beforeToo = some afterToo ∧ after.Agrees afterToo
  | .described description child, underNegation, before, beforeToo, after, found, start => by
      simp only [scopeBehind, Option.bind_eq_some_iff] at found ⊢
      obtain ⟨middle, here, behind⟩ := found
      obtain ⟨middleToo, hereToo, agrees⟩ := description.scope_behind_agrees here start
      obtain ⟨afterToo, behindToo, agreesToo⟩ := child_behind_agrees child behind agrees
      exact ⟨afterToo, ⟨middleToo, hereToo, behindToo⟩, agreesToo⟩
  | .coordination c members, underNegation, before, beforeToo, after, found, start => by
      simp only [scopeBehind] at found ⊢
      split at found
      · rename_i conjunctive
        rw [if_pos conjunctive]
        exact conjuncts_behind_agree members found start
      · rename_i disjunctive
        rw [if_neg disjunctive]
        obtain ⟨scopes, behind, rfl⟩ := Option.map_eq_some_iff.1 found
        obtain ⟨scopesToo, behindToo, each⟩ := disjuncts_behind_agree members behind start
        exact ⟨_, Option.map_eq_some_iff.2 ⟨scopesToo, behindToo, rfl⟩, start.joined_each each⟩

theorem child_behind_agrees : (child : Option Node) → ∀ {underNegation : Bool}
    {before beforeToo after : Scope}, childBehind true underNegation child before = some after →
      before.Agrees beforeToo → ∃ afterToo,
        childBehind true underNegation child beforeToo = some afterToo ∧ after.Agrees afterToo
  | none, underNegation, before, beforeToo, after, found, start => by
      cases found
      exact ⟨beforeToo, rfl, start⟩
  | some node, underNegation, before, beforeToo, after, found, start =>
      scope_behind_agrees node found start

theorem conjuncts_behind_agree : (nodes : List Node) → ∀ {underNegation : Bool}
    {before beforeToo after : Scope}, conjunctsBehind true underNegation nodes before = some after →
      before.Agrees beforeToo → ∃ afterToo,
        conjunctsBehind true underNegation nodes beforeToo = some afterToo ∧ after.Agrees afterToo
  | [], underNegation, before, beforeToo, after, found, start => by
      cases found
      exact ⟨beforeToo, rfl, start⟩
  | node :: nodes, underNegation, before, beforeToo, after, found, start => by
      simp only [conjunctsBehind, Option.bind_eq_some_iff] at found ⊢
      obtain ⟨middle, first, behind⟩ := found
      obtain ⟨middleToo, firstToo, agrees⟩ := scope_behind_agrees node first start
      obtain ⟨afterToo, behindToo, agreesToo⟩ := conjuncts_behind_agree nodes behind agrees
      exact ⟨afterToo, ⟨middleToo, firstToo, behindToo⟩, agreesToo⟩

theorem disjuncts_behind_agree : (nodes : List Node) → ∀ {underNegation : Bool}
    {before beforeToo : Scope} {scopes : List Scope},
    disjunctsBehind true underNegation nodes before = some scopes → before.Agrees beforeToo →
      ∃ scopesToo, disjunctsBehind true underNegation nodes beforeToo = some scopesToo ∧
        List.Forall₂ Scope.Agrees scopes scopesToo
  | [], underNegation, before, beforeToo, scopes, found, start => by
      cases found
      exact ⟨[], rfl, .nil⟩
  | node :: nodes, underNegation, before, beforeToo, scopes, found, start => by
      simp only [disjunctsBehind, Option.bind_eq_some_iff, Option.map_eq_some_iff] at found ⊢
      obtain ⟨first, here, others, behind, rfl⟩ := found
      obtain ⟨firstToo, hereToo, agrees⟩ := scope_behind_agrees node here start
      obtain ⟨othersToo, behindToo, each⟩ := disjuncts_behind_agree nodes behind start
      exact ⟨_, ⟨firstToo, hereToo, othersToo, behindToo, rfl⟩, .cons agrees each⟩

end

theorem disjuncts_behind_change {underNegation : Bool} {before : Scope} {node other : Node}
    (change : ∀ after, node.scopeBehind true underNegation before = some after →
      ∃ afterToo, other.scopeBehind true underNegation before = some afterToo ∧
        after.Agrees afterToo) (front back : List Node) {scopes : List Scope}
    (found : disjunctsBehind true underNegation (front ++ node :: back) before = some scopes) :
    ∃ scopesToo,
      disjunctsBehind true underNegation (front ++ other :: back) before = some scopesToo ∧
        List.Forall₂ Scope.Agrees scopes scopesToo := by
  induction front generalizing scopes with
  | nil =>
      simp only [List.nil_append, disjunctsBehind, Option.bind_eq_some_iff,
        Option.map_eq_some_iff] at found ⊢
      obtain ⟨here, first, others, behind, rfl⟩ := found
      obtain ⟨hereToo, firstToo, agrees⟩ := change here first
      exact ⟨_, ⟨hereToo, firstToo, others, behind, rfl⟩,
        .cons agrees (List.forall₂_same.2 fun scope _ => .refl scope)⟩
  | cons first front ih =>
      simp only [List.cons_append, disjunctsBehind, Option.bind_eq_some_iff,
        Option.map_eq_some_iff] at found ⊢
      obtain ⟨here, inFront, others, behind, rfl⟩ := found
      obtain ⟨othersToo, behindToo, each⟩ := ih behind
      exact ⟨_, ⟨here, inFront, othersToo, behindToo, rfl⟩, .cons (.refl here) each⟩

theorem Rearranged.scope_behind {order : List Nat} {members : List Node} {node other : Node}
    (permutes : order.Perm (List.range members.length))
    (rearranged : Rearranged order members node other) {underNegation : Bool}
    {before after : Scope} (found : node.scopeBehind true underNegation before = some after) :
    ∃ afterToo, other.scopeBehind true underNegation before = some afterToo ∧
      after.Agrees afterToo := by
  induction rearranged generalizing underNegation before after with
  | here c disjunctive =>
      simp only [scopeBehind, disjunctive, Bool.false_eq_true, if_false] at found ⊢
      obtain ⟨scopes, behind, rfl⟩ := Option.map_eq_some_iff.1 found
      have each := disjuncts_behind_iff.1 behind
      have reordered := disjuncts_behind_iff.2 (rearrange_related each order)
      rw [each.length_eq] at permutes
      exact ⟨_, Option.map_eq_some_iff.2 ⟨_, reordered, rfl⟩,
        Scope.Agrees.joined_perm before (rearrange_perm permutes).symm⟩
  | child description _ ih =>
      simp only [scopeBehind, childBehind, Option.bind_eq_some_iff] at found ⊢
      obtain ⟨middle, here, behind⟩ := found
      obtain ⟨afterToo, behindToo, agrees⟩ := ih behind
      exact ⟨afterToo, ⟨middle, here, behindToo⟩, agrees⟩
  | member c front back _ ih =>
      simp only [scopeBehind] at found ⊢
      split at found
      · rename_i conjunctive
        rw [if_pos conjunctive]
        simp only [conjuncts_behind_append, conjunctsBehind, Option.bind_eq_some_iff] at found ⊢
        obtain ⟨start, inFront, middle, here, behind⟩ := found
        obtain ⟨middleToo, hereToo, agrees⟩ := ih here
        -- The members behind it start from other lists of the same names.
        obtain ⟨afterToo, behindToo, agreesToo⟩ := conjuncts_behind_agree back behind agrees
        exact ⟨afterToo, ⟨start, inFront, middleToo, hereToo, behindToo⟩, agreesToo⟩
      · rename_i disjunctive
        rw [if_neg disjunctive]
        obtain ⟨scopes, behind, rfl⟩ := Option.map_eq_some_iff.1 found
        obtain ⟨scopesToo, behindToo, each⟩ :=
          disjuncts_behind_change (fun _ => ih) front back behind
        exact ⟨_, Option.map_eq_some_iff.2 ⟨scopesToo, behindToo, rfl⟩,
          (Scope.Agrees.refl before).joined_each each⟩

end Node

end TreeQuery

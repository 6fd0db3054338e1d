import TreeQuery.Pattern.Node
import TreeQuery.Proofs.Grammar.Phrase
import Mathlib.Data.List.Basic
import Mathlib.Data.List.Range

/- Putting the branches of one disjunction into another order: on lists, and in a tree
   in which nothing else changes. -/
set_option autoImplicit false

namespace TreeQuery

-- The items at the given indices. An order of all of them names each index once.
def rearrange {α : Type} (order : List Nat) (items : List α) : List α := order.filterMap (items[·]?)

theorem related_member {α β : Type} {related : α → β → Prop} {items : List α} {others : List β}
    (each : List.Forall₂ related items others) :
    ∀ item ∈ items, ∃ other ∈ others, related item other := by
  intro item inside
  induction each with
  | nil => cases inside
  | cons holds _ ih =>
      cases List.mem_cons.1 inside with
      | inl first => exact ⟨_, List.mem_cons_self, first ▸ holds⟩
      | inr later =>
          obtain ⟨other, member, found⟩ := ih later
          exact ⟨other, List.mem_cons_of_mem _ member, found⟩

section Rearrange

variable {α β : Type} {order : List Nat}

theorem rearrange_range (items : List α) : rearrange (List.range items.length) items = items := by
  induction items with
  | nil => rfl
  | cons first items ih =>
      unfold rearrange at ih ⊢
      rw [List.length_cons, List.range_succ_eq_map, List.filterMap_cons, List.filterMap_map]
      simpa [Function.comp_def] using ih

theorem rearrange_perm {items : List α} (permutes : order.Perm (List.range items.length)) :
    (rearrange order items).Perm items := by
  have same := permutes.filterMap (items[·]?)
  change (rearrange order items).Perm (rearrange (List.range items.length) items) at same
  rw [rearrange_range] at same
  exact same

theorem rearrange_related {related : α → β → Prop} {items : List α} {others : List β}
    (each : List.Forall₂ related items others) (order : List Nat) :
    List.Forall₂ related (rearrange order items) (rearrange order others) := by
  induction order with
  | nil => exact .nil
  | cons index order ih =>
      have lengths := each.length_eq
      unfold rearrange at ih ⊢
      by_cases within : index < items.length
      · have withinToo : index < others.length := lengths ▸ within
        rw [List.filterMap_cons_some (List.getElem?_eq_getElem within),
          List.filterMap_cons_some (List.getElem?_eq_getElem withinToo)]
        exact .cons (each.get within withinToo) ih
      · have beyond : ¬ index < others.length := lengths ▸ within
        rw [List.filterMap_cons_none (List.getElem?_eq_none (Nat.not_lt.1 within)),
          List.filterMap_cons_none (List.getElem?_eq_none (Nat.not_lt.1 beyond))]
        exact ih

end Rearrange

namespace Node

inductive Rearranged (order : List Nat) (members : List Node) : Node → Node → Prop where
  | here (c : Coordination) (disjunctive : c.conjunctive = false) :
      Rearranged order members (.coordination c members) (.coordination c (rearrange order members))
  | child (description : Description) {node other : Node}
      (rearranged : Rearranged order members node other) :
      Rearranged order members (.described description (some node))
        (.described description (some other))
  | member (c : Coordination) (front back : List Node) {node other : Node}
      (rearranged : Rearranged order members node other) :
      Rearranged order members (.coordination c (front ++ node :: back))
        (.coordination c (front ++ other :: back))

def RearrangedMember (order : List Nat) (members nodes others : List Node) : Prop :=
  ∃ front back node other, nodes = front ++ node :: back ∧ others = front ++ other :: back ∧
    Rearranged order members node other

variable {order : List Nat} {members : List Node} {node other : Node}

theorem Rearranged.with_negation (rearranged : Rearranged order members node other) :
    Rearranged order members (Grammar.withNegation node) (Grammar.withNegation other) := by
  cases rearranged with
  | here c disjunctive => exact .here { c with negated := true } disjunctive
  | child description rearranged => exact .child _ rearranged
  | member c front back rearranged => exact .member _ front back rearranged

theorem Rearranged.with_option (rearranged : Rearranged order members node other) :
    Rearranged order members (Grammar.withOption node) (Grammar.withOption other) := by
  cases rearranged with
  | here c disjunctive => exact .here { c with optional := true } disjunctive
  | child description rearranged => exact .child _ rearranged
  | member c front back rearranged => exact .member _ front back rearranged

theorem RearrangedMember.first (rearranged : Rearranged order members node other)
    (nodes : List Node) : RearrangedMember order members (node :: nodes) (other :: nodes) :=
  ⟨[], nodes, node, other, rfl, rfl, rearranged⟩

theorem RearrangedMember.later {nodes others : List Node}
    (rearranged : RearrangedMember order members nodes others) (first : Node) :
    RearrangedMember order members (first :: nodes) (first :: others) := by
  obtain ⟨front, back, node, other, same, sameToo, inner⟩ := rearranged
  exact ⟨first :: front, back, node, other, by rw [same, List.cons_append],
    by rw [sameToo, List.cons_append], inner⟩

theorem RearrangedMember.gathered {first firstToo : Node} {nodes others : List Node}
    (rearranged : RearrangedMember order members (first :: nodes) (firstToo :: others))
    (conjunctive : Bool) : Rearranged order members (Grammar.gathered conjunctive first nodes)
      (Grammar.gathered conjunctive firstToo others) := by
  obtain ⟨front, back, node, other, same, sameToo, inner⟩ := rearranged
  have whole := Rearranged.member ⟨conjunctive, false, false⟩ front back inner
  rw [← same, ← sameToo] at whole
  cases front with
  | nil =>
      cases same
      cases sameToo
      cases nodes with
      | nil => exact inner
      | cons second nodes => exact whole
  | cons head front =>
      cases same
      cases sameToo
      cases front <;> exact whole

end Node

namespace Described

variable {order : List Nat} {members : List Node} {top topToo : Described} {child childToo : Node}

theorem rearranged_child (rearranged : Node.Rearranged order members child childToo) :
    Node.Rearranged order members (Grammar.beneath top child).toNode
      (Grammar.beneath top childToo).toNode := by
  obtain ⟨description, earlier⟩ := top
  cases earlier with
  | none => exact .child description rearranged
  | some earlier => exact .child description (.member _ [earlier] [] rearranged)

theorem rearranged_top (rearranged : Node.Rearranged order members top.toNode topToo.toNode) :
    Node.Rearranged order members (Grammar.beneath top child).toNode
      (Grammar.beneath topToo child).toNode := by
  obtain ⟨description, earlier⟩ := top
  obtain ⟨descriptionToo, earlierToo⟩ := topToo
  cases rearranged with
  | child _ inner => exact .child description (.member _ [] [child] inner)

end Described

end TreeQuery

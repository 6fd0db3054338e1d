import TreeQuery.Proofs.Printing.RoundTrip

/- Which modifiers the nodes of a tree carry. The grammar takes one modifier before a
   constraint. But one member stands for its group, so a modifier before a group with one
   member is set on the node that this member denotes, beside the modifier that the member
   has already. These are all the places where a node comes by both. -/
set_option autoImplicit false

namespace TreeQuery

inductive Modifier where
  | negation
  | option
deriving DecidableEq

namespace Modifier

def other : Modifier → Modifier
  | negation => option
  | option => negation

def mark : Modifier → Node → Node
  | negation => Node.negate
  | option => Node.makeOptional

end Modifier

namespace Node

def carries : Modifier → Node → Bool
  | .negation => isNegated
  | .option => isOptional

theorem carries_mark (carried modifier : Modifier) (node : Node) :
    (modifier.mark node).carries carried = (modifier == carried || node.carries carried) := by
  cases carried <;> cases modifier <;> cases node <;> rfl

theorem carries_coordination (carried : Modifier) (conjunctive : Bool) (members : List Node) :
    (coordination ⟨conjunctive, false, false⟩ members).carries carried = false := by
  cases carried <;> rfl

theorem exclusive_described {description : Description} {child : Option Node} :
    (described description child).Exclusive ↔
      ¬ (description.negated = true ∧ description.optional = true) ∧
        ∀ node, child = some node → node.Exclusive :=
  everywhere_described

theorem exclusive_coordination {c : Coordination} {members : List Node} :
    (coordination c members).Exclusive ↔
      ¬ (c.negated = true ∧ c.optional = true) ∧ ∀ node ∈ members, node.Exclusive :=
  everywhere_coordination

theorem exclusive_mark {modifier : Modifier} {node : Node} :
    (modifier.mark node).Exclusive ↔ node.Exclusive ∧ node.carries modifier.other = false := by
  cases node with
  | described description child =>
      cases modifier <;>
        simp only [Modifier.mark, negate, makeOptional, exclusive_described, Modifier.other,
          carries, isNegated, isOptional] <;> grind
  | coordination c members =>
      cases modifier <;>
        simp only [Modifier.mark, negate, makeOptional, exclusive_coordination, Modifier.other,
          carries, isNegated, isOptional] <;> grind

theorem exclusive_gathered {conjunctive : Bool} {first : Node} {others : List Node} :
    (Grammar.gathered conjunctive first others).Exclusive ↔
      first.Exclusive ∧ ∀ node ∈ others, node.Exclusive := by
  cases others with
  | nil => simp only [Grammar.gathered, List.not_mem_nil, false_imp_iff, implies_true, and_true]
  | cons second others =>
      rw [Grammar.gathered, exclusive_coordination, List.forall_mem_cons]
      simp only [Bool.false_eq_true, false_and, not_false_eq_true, true_and]

end Node

def Described.ExclusiveBelow (top : Described) : Prop :=
  ∀ node, top.child = some node → node.Exclusive

namespace Described

theorem exclusive_iff_below {top : Described} (plain : top.description.negated = false) :
    top.toNode.Exclusive ↔ top.ExclusiveBelow := by
  rw [toNode, Node.exclusive_described, plain]
  simp only [Bool.false_eq_true, false_and, not_false_eq_true, true_and, ExclusiveBelow]

theorem exclusive_beneath {top : Described} {child : Node} :
    (Grammar.beneath top child).ExclusiveBelow ↔ top.ExclusiveBelow ∧ child.Exclusive := by
  obtain ⟨description, earlier⟩ := top
  cases earlier with
  | none => simp only [Grammar.beneath, ExclusiveBelow, reduceCtorEq, false_imp_iff, implies_true,
      true_and, Option.some.injEq, forall_eq']
  | some earlier =>
      have both : (Grammar.gathered true earlier [child]).Exclusive ↔ _ := Node.exclusive_gathered
      rw [List.forall_mem_singleton, Grammar.gathered] at both
      simpa only [Grammar.beneath, ExclusiveBelow, Option.some.injEq, forall_eq'] using both

end Described

namespace Grammar

-- Does the phrase denote a node with the modifier?

mutual

def DisjunctionPhrase.carries (modifier : Modifier) : DisjunctionPhrase → Bool
  | .of first .nil => first.carries modifier
  | .of _ (.cons _ _ _) => false

def ConjunctionPhrase.carries (modifier : Modifier) : ConjunctionPhrase → Bool
  | .of first .nil => first.carries modifier
  | .of _ (.cons _ _ _) => false

def ConstraintPhrase.carries (modifier : Modifier) : ConstraintPhrase → Bool
  | .plain constraint => constraint.carries modifier
  | .negated _ constraint => .negation == modifier || constraint.carries modifier
  | .optional _ constraint => .option == modifier || constraint.carries modifier

def PlainPhrase.carries (modifier : Modifier) : PlainPhrase → Bool
  | .group _ members _ => members.carries modifier
  | .related _ _ => false

end

-- Does no modifier of the phrase stand before a group that carries the other one?

mutual

def NodePhrase.keepsApart : NodePhrase → Bool
  | .enclosed _ inner _ => inner.keepsApart
  | .label _ => true

def SubNodePhrase.keepsApart : SubNodePhrase → Bool
  | .alone node => node.keepsApart
  | .above node children => node.keepsApart && children.keepsApart

def DisjunctionPhrase.keepsApart : DisjunctionPhrase → Bool
  | .of first others => first.keepsApart && others.keepsApart

def DisjunctsPhrase.keepsApart : DisjunctsPhrase → Bool
  | .nil => true
  | .cons _ next others => next.keepsApart && others.keepsApart

def ConjunctionPhrase.keepsApart : ConjunctionPhrase → Bool
  | .of first others => first.keepsApart && others.keepsApart

def ConjunctsPhrase.keepsApart : ConjunctsPhrase → Bool
  | .nil => true
  | .cons _ next others => next.keepsApart && others.keepsApart

def ConstraintPhrase.keepsApart : ConstraintPhrase → Bool
  | .plain constraint => constraint.keepsApart
  | .negated _ constraint => constraint.keepsApart && !constraint.carries .option
  | .optional _ constraint => constraint.keepsApart && !constraint.carries .negation

def PlainPhrase.keepsApart : PlainPhrase → Bool
  | .group _ members _ => members.keepsApart
  | .related _ node => node.keepsApart

end

variable {resolver : Resolver}

mutual

theorem DisjunctionPhrase.denote_carries (modifier : Modifier) :
    (phrase : DisjunctionPhrase) → ∀ {node : Node},
      phrase.denote resolver = some node → node.carries modifier = phrase.carries modifier
  | .of first others, node, denoted => by
      obtain ⟨head, tail, found, behind, rfl⟩ := DisjunctionPhrase.denote_of.1 denoted
      cases others with
      | nil =>
          cases behind
          rw [DisjunctionPhrase.carries]
          exact first.denote_carries modifier found
      | cons bar next others =>
          obtain ⟨second, rest, -, -, rfl⟩ := DisjunctsPhrase.denote_cons.1 behind
          rw [DisjunctionPhrase.carries]
          exact Node.carries_coordination modifier false _

theorem ConjunctionPhrase.denote_carries (modifier : Modifier) :
    (phrase : ConjunctionPhrase) → ∀ {node : Node},
      phrase.denote resolver = some node → node.carries modifier = phrase.carries modifier
  | .of first others, node, denoted => by
      obtain ⟨head, tail, found, behind, rfl⟩ := ConjunctionPhrase.denote_of.1 denoted
      cases others with
      | nil =>
          cases behind
          rw [ConjunctionPhrase.carries]
          exact first.denote_carries modifier found
      | cons joint next others =>
          obtain ⟨second, rest, -, -, rfl⟩ := ConjunctsPhrase.denote_cons.1 behind
          rw [ConjunctionPhrase.carries]
          exact Node.carries_coordination modifier true _

theorem ConstraintPhrase.denote_carries (modifier : Modifier) :
    (phrase : ConstraintPhrase) → ∀ {node : Node},
      phrase.denote resolver = some node → node.carries modifier = phrase.carries modifier
  | .plain constraint, node, denoted => by
      rw [ConstraintPhrase.denote] at denoted
      rw [ConstraintPhrase.carries]
      exact constraint.denote_carries modifier denoted
  | .negated bang constraint, node, denoted => by
      obtain ⟨inner, found, rfl⟩ := ConstraintPhrase.denote_negated.1 denoted
      rw [ConstraintPhrase.carries, ← constraint.denote_carries modifier found]
      exact Node.carries_mark modifier .negation inner
  | .optional question constraint, node, denoted => by
      obtain ⟨inner, found, rfl⟩ := ConstraintPhrase.denote_optional.1 denoted
      rw [ConstraintPhrase.carries, ← constraint.denote_carries modifier found]
      exact Node.carries_mark modifier .option inner

theorem PlainPhrase.denote_carries (modifier : Modifier) :
    (phrase : PlainPhrase) → ∀ {node : Node},
      phrase.denote resolver = some node → node.carries modifier = phrase.carries modifier
  | .group opener members closer, node, denoted => by
      rw [PlainPhrase.denote] at denoted
      rw [PlainPhrase.carries]
      exact members.denote_carries modifier denoted
  | .related operation target, node, denoted => by
      obtain ⟨relation, top, -, meant, rfl⟩ := PlainPhrase.denote_related.1 denoted
      obtain ⟨-, negated, optional⟩ := target.denote_plain meant
      cases modifier with
      | negation => exact negated
      | option => exact optional

end

mutual

theorem NodePhrase.exclusive_iff {relation : Relation} : (phrase : NodePhrase) →
    ∀ {top : Described}, phrase.denote resolver relation = some top →
      (top.ExclusiveBelow ↔ phrase.keepsApart = true)
  | .enclosed opener inner closer, top, denoted => by
      rw [NodePhrase.denote] at denoted
      rw [NodePhrase.keepsApart]
      exact inner.exclusive_iff denoted
  | .label description, top, denoted => by
      rw [NodePhrase.denote] at denoted
      obtain ⟨found, -, rfl⟩ := Option.map_eq_some_iff.1 denoted
      simp only [Described.ExclusiveBelow, reduceCtorEq, false_imp_iff, implies_true,
        NodePhrase.keepsApart]

theorem SubNodePhrase.exclusive_iff {relation : Relation} : (phrase : SubNodePhrase) →
    ∀ {top : Described}, phrase.denote resolver relation = some top →
      (top.ExclusiveBelow ↔ phrase.keepsApart = true)
  | .alone node, top, denoted => by
      rw [SubNodePhrase.denote] at denoted
      rw [SubNodePhrase.keepsApart]
      exact node.exclusive_iff denoted
  | .above node children, top, denoted => by
      obtain ⟨inner, child, found, below, rfl⟩ := SubNodePhrase.denote_above.1 denoted
      rw [Described.exclusive_beneath, SubNodePhrase.keepsApart, Bool.and_eq_true,
        node.exclusive_iff found, children.exclusive_iff below]

theorem DisjunctionPhrase.exclusive_iff : (phrase : DisjunctionPhrase) → ∀ {node : Node},
    phrase.denote resolver = some node → (node.Exclusive ↔ phrase.keepsApart = true)
  | .of first others, node, denoted => by
      obtain ⟨head, tail, found, behind, rfl⟩ := DisjunctionPhrase.denote_of.1 denoted
      rw [Node.exclusive_gathered, DisjunctionPhrase.keepsApart, Bool.and_eq_true,
        first.exclusive_iff found, others.exclusive_iff behind]

theorem DisjunctsPhrase.exclusive_iff : (phrase : DisjunctsPhrase) → ∀ {nodes : List Node},
    phrase.denote resolver = some nodes →
      ((∀ node ∈ nodes, node.Exclusive) ↔ phrase.keepsApart = true)
  | .nil, nodes, denoted => by
      cases denoted
      simp only [List.not_mem_nil, false_imp_iff, implies_true, DisjunctsPhrase.keepsApart]
  | .cons bar next others, nodes, denoted => by
      obtain ⟨head, tail, found, behind, rfl⟩ := DisjunctsPhrase.denote_cons.1 denoted
      rw [List.forall_mem_cons, DisjunctsPhrase.keepsApart, Bool.and_eq_true,
        next.exclusive_iff found, others.exclusive_iff behind]

theorem ConjunctionPhrase.exclusive_iff : (phrase : ConjunctionPhrase) → ∀ {node : Node},
    phrase.denote resolver = some node → (node.Exclusive ↔ phrase.keepsApart = true)
  | .of first others, node, denoted => by
      obtain ⟨head, tail, found, behind, rfl⟩ := ConjunctionPhrase.denote_of.1 denoted
      rw [Node.exclusive_gathered, ConjunctionPhrase.keepsApart, Bool.and_eq_true,
        first.exclusive_iff found, others.exclusive_iff behind]

theorem ConjunctsPhrase.exclusive_iff : (phrase : ConjunctsPhrase) → ∀ {nodes : List Node},
    phrase.denote resolver = some nodes →
      ((∀ node ∈ nodes, node.Exclusive) ↔ phrase.keepsApart = true)
  | .nil, nodes, denoted => by
      cases denoted
      simp only [List.not_mem_nil, false_imp_iff, implies_true, ConjunctsPhrase.keepsApart]
  | .cons joint next others, nodes, denoted => by
      obtain ⟨head, tail, found, behind, rfl⟩ := ConjunctsPhrase.denote_cons.1 denoted
      rw [List.forall_mem_cons, ConjunctsPhrase.keepsApart, Bool.and_eq_true,
        next.exclusive_iff found, others.exclusive_iff behind]

theorem ConstraintPhrase.exclusive_iff : (phrase : ConstraintPhrase) → ∀ {node : Node},
    phrase.denote resolver = some node → (node.Exclusive ↔ phrase.keepsApart = true)
  | .plain constraint, node, denoted => by
      rw [ConstraintPhrase.denote] at denoted
      rw [ConstraintPhrase.keepsApart]
      exact constraint.exclusive_iff denoted
  | .negated bang constraint, node, denoted => by
      obtain ⟨inner, found, rfl⟩ := ConstraintPhrase.denote_negated.1 denoted
      have marked : (Modifier.negation.mark inner).Exclusive ↔ _ := Node.exclusive_mark
      rw [constraint.exclusive_iff found, constraint.denote_carries _ found] at marked
      rw [ConstraintPhrase.keepsApart, Bool.and_eq_true, Bool.not_eq_true']
      exact marked
  | .optional question constraint, node, denoted => by
      obtain ⟨inner, found, rfl⟩ := ConstraintPhrase.denote_optional.1 denoted
      have marked : (Modifier.option.mark inner).Exclusive ↔ _ := Node.exclusive_mark
      rw [constraint.exclusive_iff found, constraint.denote_carries _ found] at marked
      rw [ConstraintPhrase.keepsApart, Bool.and_eq_true, Bool.not_eq_true']
      exact marked

theorem PlainPhrase.exclusive_iff : (phrase : PlainPhrase) → ∀ {node : Node},
    phrase.denote resolver = some node → (node.Exclusive ↔ phrase.keepsApart = true)
  | .group opener members closer, node, denoted => by
      rw [PlainPhrase.denote] at denoted
      rw [PlainPhrase.keepsApart]
      exact members.exclusive_iff denoted
  | .related operation target, node, denoted => by
      obtain ⟨relation, top, -, meant, rfl⟩ := PlainPhrase.denote_related.1 denoted
      obtain ⟨-, positive, -⟩ := target.denote_plain meant
      rw [Described.exclusive_iff_below positive, PlainPhrase.keepsApart]
      exact target.exclusive_iff meant

end

end Grammar

end TreeQuery

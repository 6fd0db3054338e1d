import TreeQuery.Proofs.Printing.Label
import TreeQuery.Proofs.Pattern.Place

/- Trees that were read from a text: everywhere in them relations and descriptions are
   printed in a way that reads back, and coordinations combine at least two nodes. -/
set_option autoImplicit false

namespace TreeQuery

open Grammar

def Description.LabelReads (resolver : Resolver) (description : Description) : Prop :=
  Spells description.renderLabel Boundary (SpeltLabel resolver.checkRegex description)

structure Relation.Reads (resolver : Resolver) (relation : Relation) : Prop where
  notRoot : relation.isRoot = false
  spells : Spells relation.render Spaced (SpeltRelation resolver relation)

def Node.Reads (resolver : Resolver) : Node → Prop
  | .described description _ =>
      description.relation.Reads resolver ∧ description.LabelReads resolver
  | .coordination _ members => 2 ≤ members.length

abbrev Node.Readable (resolver : Resolver) (root : Node) : Prop :=
  root.Everywhere (Node.Reads resolver)

structure Described.Readable (resolver : Resolver) (relation : Relation) (top : Described) :
    Prop where
  relation_eq : top.description.relation = relation
  label : top.description.LabelReads resolver
  child : ∀ node, top.child = some node → node.Readable resolver

namespace Node.Readable

variable {resolver : Resolver} {node first : Node} {others : List Node}

theorem negate (readable : node.Readable resolver) : node.negate.Readable resolver := by
  cases node with
  | described description child =>
      have parts := everywhere_described.1 readable
      exact everywhere_described.2 parts
  | coordination c members =>
      have parts := everywhere_coordination.1 readable
      exact everywhere_coordination.2 parts

theorem makeOptional (readable : node.Readable resolver) : node.makeOptional.Readable resolver := by
  cases node with
  | described description child =>
      have parts := everywhere_described.1 readable
      exact everywhere_described.2 parts
  | coordination c members =>
      have parts := everywhere_coordination.1 readable
      exact everywhere_coordination.2 parts

theorem gathered (conjunctive : Bool) (head : first.Readable resolver)
    (tail : ∀ node ∈ others, node.Readable resolver) :
    (gathered conjunctive first others).Readable resolver := by
  cases others with
  | nil => exact head
  | cons second others =>
      refine everywhere_coordination.2 ⟨Nat.le_add_left 2 others.length, ?_⟩
      exact List.forall_mem_cons.2 ⟨head, tail⟩

end Node.Readable

namespace Described.Readable

variable {resolver : Resolver} {relation : Relation} {top : Described} {child : Node}

theorem beneath (readable : top.Readable resolver relation) (below : child.Readable resolver) :
    (beneath top child).Readable resolver relation := by
  obtain ⟨description, earlier⟩ := top
  refine ⟨?_, ?_, ?_⟩
  · cases earlier <;> exact readable.relation_eq
  · cases earlier <;> exact readable.label
  · cases earlier with
    | none =>
        rintro _ ⟨⟩
        exact below
    | some earlier =>
        rintro _ ⟨⟩
        exact Node.Readable.gathered true (readable.child earlier rfl)
          (fun node inside => List.mem_singleton.1 inside ▸ below)

theorem toNode (readable : top.Readable resolver relation) (reads : relation.Reads resolver) :
    top.toNode.Readable resolver :=
  Node.everywhere_described.2 ⟨⟨readable.relation_eq ▸ reads, readable.label⟩, readable.child⟩

end Described.Readable

namespace Grammar

mutual

theorem NodePhrase.readable {resolver : Resolver} {relation : Relation} {top : Described} :
    (phrase : NodePhrase) → (∀ token ∈ phrase.tokens, token.Lexed) →
      phrase.denote resolver relation = some top → top.Readable resolver relation
  | .enclosed opener inner closer, lexed, denoted => by
      rw [NodePhrase.tokens, List.forall_mem_cons, List.forall_mem_append] at lexed
      obtain ⟨-, lexedInner, -⟩ := lexed
      rw [NodePhrase.denote] at denoted
      exact SubNodePhrase.readable inner lexedInner denoted
  | .label description, lexed, denoted => by
      rw [NodePhrase.tokens] at lexed
      rw [NodePhrase.denote] at denoted
      obtain ⟨found, denotes, rfl⟩ := Option.map_eq_some_iff.1 denoted
      exact ⟨(DescriptionPhrase.denote_plain denotes).1, Spells.described lexed denotes,
        fun _ same => by cases same⟩

theorem SubNodePhrase.readable {resolver : Resolver} {relation : Relation} {top : Described} :
    (phrase : SubNodePhrase) → (∀ token ∈ phrase.tokens, token.Lexed) →
      phrase.denote resolver relation = some top → top.Readable resolver relation
  | .alone node, lexed, denoted => by
      rw [SubNodePhrase.tokens] at lexed
      rw [SubNodePhrase.denote] at denoted
      exact NodePhrase.readable node lexed denoted
  | .above node children, lexed, denoted => by
      rw [SubNodePhrase.tokens, List.forall_mem_append] at lexed
      obtain ⟨inner, child, found, below, rfl⟩ := SubNodePhrase.denote_above.1 denoted
      have upper := NodePhrase.readable node lexed.1 found
      have lower := DisjunctionPhrase.readable children lexed.2 below
      exact upper.beneath lower

theorem DisjunctionPhrase.readable {resolver : Resolver} {node : Node} :
    (phrase : DisjunctionPhrase) → (∀ token ∈ phrase.tokens, token.Lexed) →
      phrase.denote resolver = some node → node.Readable resolver
  | .of first others, lexed, denoted => by
      rw [DisjunctionPhrase.tokens, List.forall_mem_append] at lexed
      obtain ⟨head, tail, found, behind, rfl⟩ := DisjunctionPhrase.denote_of.1 denoted
      have readableHead := ConjunctionPhrase.readable first lexed.1 found
      have readableTail := DisjunctsPhrase.readable others lexed.2 behind
      exact Node.Readable.gathered false readableHead readableTail

theorem DisjunctsPhrase.readable {resolver : Resolver} {nodes : List Node} :
    (phrase : DisjunctsPhrase) → (∀ token ∈ phrase.tokens, token.Lexed) →
      phrase.denote resolver = some nodes → ∀ node ∈ nodes, node.Readable resolver
  | .nil, lexed, denoted => by
      cases denoted
      simp
  | .cons bar next others, lexed, denoted => by
      rw [DisjunctsPhrase.tokens, List.forall_mem_cons, List.forall_mem_append] at lexed
      obtain ⟨-, lexedNext, lexedOthers⟩ := lexed
      obtain ⟨head, tail, found, behind, rfl⟩ := DisjunctsPhrase.denote_cons.1 denoted
      have readableHead := ConjunctionPhrase.readable next lexedNext found
      have readableTail := DisjunctsPhrase.readable others lexedOthers behind
      exact List.forall_mem_cons.2 ⟨readableHead, readableTail⟩

theorem ConjunctionPhrase.readable {resolver : Resolver} {node : Node} :
    (phrase : ConjunctionPhrase) → (∀ token ∈ phrase.tokens, token.Lexed) →
      phrase.denote resolver = some node → node.Readable resolver
  | .of first others, lexed, denoted => by
      rw [ConjunctionPhrase.tokens, List.forall_mem_append] at lexed
      obtain ⟨head, tail, found, behind, rfl⟩ := ConjunctionPhrase.denote_of.1 denoted
      have readableHead := ConstraintPhrase.readable first lexed.1 found
      have readableTail := ConjunctsPhrase.readable others lexed.2 behind
      exact Node.Readable.gathered true readableHead readableTail

theorem ConjunctsPhrase.readable {resolver : Resolver} {nodes : List Node} :
    (phrase : ConjunctsPhrase) → (∀ token ∈ phrase.tokens, token.Lexed) →
      phrase.denote resolver = some nodes → ∀ node ∈ nodes, node.Readable resolver
  | .nil, lexed, denoted => by
      cases denoted
      simp
  | .cons joint next others, lexed, denoted => by
      rw [ConjunctsPhrase.tokens, List.forall_mem_append, List.forall_mem_append] at lexed
      obtain ⟨-, lexedNext, lexedOthers⟩ := lexed
      obtain ⟨head, tail, found, behind, rfl⟩ := ConjunctsPhrase.denote_cons.1 denoted
      have readableHead := ConstraintPhrase.readable next lexedNext found
      have readableTail := ConjunctsPhrase.readable others lexedOthers behind
      exact List.forall_mem_cons.2 ⟨readableHead, readableTail⟩

theorem ConstraintPhrase.readable {resolver : Resolver} {node : Node} :
    (phrase : ConstraintPhrase) → (∀ token ∈ phrase.tokens, token.Lexed) →
      phrase.denote resolver = some node → node.Readable resolver
  | .plain constraint, lexed, denoted => by
      rw [ConstraintPhrase.tokens] at lexed
      rw [ConstraintPhrase.denote] at denoted
      exact PlainPhrase.readable constraint lexed denoted
  | .negated bang constraint, lexed, denoted => by
      rw [ConstraintPhrase.tokens, List.forall_mem_cons] at lexed
      obtain ⟨inner, found, rfl⟩ := ConstraintPhrase.denote_negated.1 denoted
      exact (PlainPhrase.readable constraint lexed.2 found).negate
  | .optional question constraint, lexed, denoted => by
      rw [ConstraintPhrase.tokens, List.forall_mem_cons] at lexed
      obtain ⟨inner, found, rfl⟩ := ConstraintPhrase.denote_optional.1 denoted
      exact (PlainPhrase.readable constraint lexed.2 found).makeOptional

theorem PlainPhrase.readable {resolver : Resolver} {node : Node} :
    (phrase : PlainPhrase) → (∀ token ∈ phrase.tokens, token.Lexed) →
      phrase.denote resolver = some node → node.Readable resolver
  | .group opener members closer, lexed, denoted => by
      rw [PlainPhrase.tokens, List.forall_mem_cons, List.forall_mem_append] at lexed
      obtain ⟨-, lexedMembers, -⟩ := lexed
      rw [PlainPhrase.denote] at denoted
      exact DisjunctionPhrase.readable members lexedMembers denoted
  | .related operation node, lexed, denoted => by
      rw [PlainPhrase.tokens, List.forall_mem_append] at lexed
      obtain ⟨relation, top, found, foundNode, rfl⟩ := PlainPhrase.denote_related.1 denoted
      have reads := Spells.resolved lexed.1 found
      have readable := NodePhrase.readable node lexed.2 foundNode
      exact readable.toNode ⟨reads.1, reads.2⟩

end

end Grammar

end TreeQuery

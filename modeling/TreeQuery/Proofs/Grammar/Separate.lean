import Mathlib.Data.List.Chain
import TreeQuery.Proofs.Grammar.Phrase

/- Of the two modifiers the grammar takes one: no phrase has a question mark directly
   behind a bang. No phrase ends in a bang either, so that what is separate stays
   separate behind a phrase. -/
set_option autoImplicit false

namespace TreeQuery.Grammar

def Separate (tokens : List Token) : Prop :=
  tokens.IsChain fun token next => token.kind = .bang → next.kind ≠ .question

def Unasked (tokens : List Token) : Prop :=
  ∀ token ∈ tokens.head?, token.kind ≠ .question

variable {token : Token} {rest : List Token}

theorem Separate.behind (separate : Separate rest) (apart : token.kind = .bang → Unasked rest) :
    Separate (token :: rest) := by
  cases rest with
  | nil => exact .singleton token
  | cons next rest => exact .cons_cons (fun bang => apart bang next rfl) separate

theorem Separate.behind_leaf {kind : TokenKind} (separate : Separate rest) (leaf : Leaf [kind])
    (other : kind ≠ .bang) : Separate (leaf.token :: rest) :=
  separate.behind fun bang => absurd (leaf.kind_eq.symm.trans bang) other

theorem Separate.behind_label (separate : Separate rest) (label : Leaf labelKinds) :
    Separate (label.token :: rest) := by
  have other : TokenKind.bang ∉ labelKinds := by decide
  exact separate.behind fun bang => absurd (bang ▸ label.kind_mem) other

theorem Separate.behind_optional {kind : TokenKind} (separate : Separate rest)
    (leaf : Option (Leaf [kind])) (other : kind ≠ .bang) :
    Separate (optionalTokens leaf ++ rest) := by
  cases leaf with
  | none => exact separate
  | some leaf => exact separate.behind_leaf leaf other

theorem Separate.behind_negation (separate : Separate rest) (unasked : Unasked rest)
    (negation : Option (Leaf [.bang])) : Separate (optionalTokens negation ++ rest) := by
  cases negation with
  | none => exact separate
  | some bang => exact separate.behind fun _ => unasked

theorem unasked_leaf {kind : TokenKind} (leaf : Leaf [kind]) (other : kind ≠ .question) :
    Unasked (leaf.token :: rest) := by
  rintro _ ⟨⟩
  rw [leaf.kind_eq]
  exact other

theorem unasked_label (label : Leaf labelKinds) : Unasked (label.token :: rest) := by
  rintro _ ⟨⟩ same
  have other : TokenKind.question ∉ labelKinds := by decide
  exact other (same ▸ label.kind_mem)

theorem unasked_category (unasked : Unasked rest) (category : Option (Leaf [.atSign])) :
    Unasked (optionalTokens category ++ rest) := by
  cases category with
  | none => exact unasked
  | some category => exact unasked_leaf category (by decide)

theorem ArgumentPhrase.separate (phrase : ArgumentPhrase) (separate : Separate rest) :
    Separate (phrase.tokens ++ rest) := by
  cases phrase with
  | enclosed opener negation category label closer =>
      have inner := (separate.behind_leaf closer (by decide)).behind_label label
      have unasked : Unasked (optionalTokens category ++ label.token :: closer.token :: rest) :=
        unasked_category (unasked_label label) category
      have whole := ((inner.behind_optional category (by decide)).behind_negation unasked
        negation).behind_leaf opener (by decide)
      simpa [tokens] using whole
  | unenclosed negation regex =>
      have whole := (separate.behind_leaf regex (by decide)).behind_negation
        (unasked_leaf regex (by decide)) negation
      simpa [tokens] using whole

theorem OperationPhrase.separate (phrase : OperationPhrase) (separate : Separate rest) :
    Separate (phrase.tokens ++ rest) := by
  cases phrase with
  | plain operator number =>
      exact (separate.behind_optional number (by decide)).behind_leaf operator (by decide)
  | chain operator argument =>
      exact (argument.separate separate).behind_leaf operator (by decide)

theorem OperationPhrase.unasked (phrase : OperationPhrase) : Unasked (phrase.tokens ++ rest) := by
  cases phrase with
  | plain operator number => exact unasked_leaf operator (by decide)
  | chain operator argument => exact unasked_leaf operator (by decide)

theorem capture_separate (capture : Option CapturePhrase) (separate : Separate rest) :
    Separate (captureTokens capture ++ rest) := by
  cases capture with
  | none => exact separate
  | some capture =>
      exact (separate.behind_leaf capture.name (by decide)).behind_leaf capture.equals (by decide)

theorem groups_separate (groups : List GroupPhrase) (separate : Separate rest) :
    Separate (groups.flatMap GroupPhrase.tokens ++ rest) := by
  induction groups with
  | nil => exact separate
  | cons group groups ih =>
      rw [List.flatMap_cons, List.append_assoc]
      have named := (ih.behind_leaf group.name (by decide)).behind_leaf group.equals (by decide)
      exact (named.behind_leaf group.number (by decide)).behind_leaf group.hash (by decide)

theorem BarePhrase.separate (phrase : BarePhrase) (separate : Separate rest) :
    Separate (phrase.tokens ++ rest) := by
  cases phrase with
  | labelled label groups capture =>
      have behind := groups_separate groups (capture_separate capture separate)
      rw [tokens, List.cons_append, List.append_assoc]
      exact behind.behind_label label
  | linked tilde target capture =>
      have behind := capture_separate capture separate
      exact (behind.behind_leaf target (by decide)).behind_leaf tilde (by decide)
  | backreferenced equals target =>
      exact (separate.behind_leaf target (by decide)).behind_leaf equals (by decide)

theorem BarePhrase.unasked (phrase : BarePhrase) : Unasked (phrase.tokens ++ rest) := by
  cases phrase with
  | labelled label groups capture => exact unasked_label label
  | linked tilde target capture => exact unasked_leaf tilde (by decide)
  | backreferenced equals target => exact unasked_leaf equals (by decide)

theorem DescriptionPhrase.separate (phrase : DescriptionPhrase) (separate : Separate rest) :
    Separate (phrase.tokens ++ rest) := by
  have behind := (phrase.bare.separate separate).behind_optional phrase.category (by decide)
  rw [tokens, List.append_assoc, List.append_assoc]
  exact behind.behind_negation (unasked_category phrase.bare.unasked phrase.category) phrase.negation

mutual

theorem NodePhrase.separate : (phrase : NodePhrase) → ∀ {rest : List Token},
    Separate rest → Separate (phrase.tokens ++ rest)
  | .enclosed opener inner closer, rest, separate => by
      have behind := inner.separate (separate.behind_leaf closer (by decide))
      rw [NodePhrase.tokens, List.cons_append, List.append_assoc]
      exact behind.behind_leaf opener (by decide)
  | .label description, rest, separate => by
      rw [NodePhrase.tokens]
      exact description.separate separate

theorem SubNodePhrase.separate : (phrase : SubNodePhrase) → ∀ {rest : List Token},
    Separate rest → Separate (phrase.tokens ++ rest)
  | .alone node, rest, separate => by
      rw [SubNodePhrase.tokens]
      exact node.separate separate
  | .above node children, rest, separate => by
      rw [SubNodePhrase.tokens, List.append_assoc]
      exact node.separate (children.separate separate)

theorem DisjunctionPhrase.separate : (phrase : DisjunctionPhrase) → ∀ {rest : List Token},
    Separate rest → Separate (phrase.tokens ++ rest)
  | .of first others, rest, separate => by
      rw [DisjunctionPhrase.tokens, List.append_assoc]
      exact first.separate (others.separate separate)

theorem DisjunctsPhrase.separate : (phrase : DisjunctsPhrase) → ∀ {rest : List Token},
    Separate rest → Separate (phrase.tokens ++ rest)
  | .nil, rest, separate => by
      rw [DisjunctsPhrase.tokens]
      exact separate
  | .cons bar next others, rest, separate => by
      rw [DisjunctsPhrase.tokens, List.cons_append, List.append_assoc]
      exact (next.separate (others.separate separate)).behind_leaf bar (by decide)

theorem ConjunctionPhrase.separate : (phrase : ConjunctionPhrase) → ∀ {rest : List Token},
    Separate rest → Separate (phrase.tokens ++ rest)
  | .of first others, rest, separate => by
      rw [ConjunctionPhrase.tokens, List.append_assoc]
      exact first.separate (others.separate separate)

theorem ConjunctsPhrase.separate : (phrase : ConjunctsPhrase) → ∀ {rest : List Token},
    Separate rest → Separate (phrase.tokens ++ rest)
  | .nil, rest, separate => by
      rw [ConjunctsPhrase.tokens]
      exact separate
  | .cons joint next others, rest, separate => by
      rw [ConjunctsPhrase.tokens, List.append_assoc, List.append_assoc]
      exact (next.separate (others.separate separate)).behind_optional joint (by decide)

theorem ConstraintPhrase.separate : (phrase : ConstraintPhrase) → ∀ {rest : List Token},
    Separate rest → Separate (phrase.tokens ++ rest)
  | .plain constraint, rest, separate => by
      rw [ConstraintPhrase.tokens]
      exact (constraint.separate separate).1
  | .negated bang constraint, rest, separate => by
      obtain ⟨behind, unasked⟩ := constraint.separate separate
      rw [ConstraintPhrase.tokens]
      exact behind.behind fun _ => unasked
  | .optional question constraint, rest, separate => by
      rw [ConstraintPhrase.tokens]
      exact (constraint.separate separate).1.behind_leaf question (by decide)

-- What is modified does not begin with a modifier.
theorem PlainPhrase.separate : (phrase : PlainPhrase) → ∀ {rest : List Token},
    Separate rest → Separate (phrase.tokens ++ rest) ∧ Unasked (phrase.tokens ++ rest)
  | .group opener members closer, rest, separate => by
      have behind := members.separate (separate.behind_leaf closer (by decide))
      rw [PlainPhrase.tokens, List.cons_append, List.append_assoc]
      exact ⟨behind.behind_leaf opener (by decide), unasked_leaf opener (by decide)⟩
  | .related operation node, rest, separate => by
      rw [PlainPhrase.tokens, List.append_assoc]
      exact ⟨operation.separate (node.separate separate), operation.unasked⟩

end

theorem PatternPhrase.separate (phrase : PatternPhrase) : Separate phrase.tokens :=
  phrase.top.separate (.singleton phrase.terminator.token)

end TreeQuery.Grammar

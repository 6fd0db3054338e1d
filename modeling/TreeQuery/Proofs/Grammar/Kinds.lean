import TreeQuery.Proofs.Grammar.Phrase

/- The grammar sees kinds only: tokens of the same kinds as those of a phrase form a
   phrase of the same shape. None of them is the end of the input. -/
set_option autoImplicit false

namespace TreeQuery.Grammar

-- The kinds of a pattern that the grammar derives, without the end of the input.
def Derives (kinds : List TokenKind) : Prop :=
  ∃ phrase : PatternPhrase, phrase.tokens.map Token.kind = kinds

def SameKinds (tokens others : List Token) : Prop :=
  tokens.map Token.kind = others.map Token.kind

namespace SameKinds

theorem nil {tokens : List Token} (same : SameKinds tokens []) : tokens = [] :=
  List.map_eq_nil_iff.1 same

theorem leaf {kinds : List TokenKind} {leaf : Leaf kinds} {tokens rest : List Token}
    (same : SameKinds tokens (leaf.token :: rest)) :
    ∃ (other : Leaf kinds) (others : List Token), tokens = other.token :: others ∧
      SameKinds others rest := by
  obtain ⟨token, others, rfl, kind, tail⟩ := List.map_eq_cons_iff.1 same
  exact ⟨⟨token, kind ▸ leaf.kind_mem⟩, others, rfl, tail⟩

theorem append {tokens first second : List Token} (same : SameKinds tokens (first ++ second)) :
    ∃ before after, tokens = before ++ after ∧ SameKinds before first ∧ SameKinds after second := by
  unfold SameKinds at same
  rw [List.map_append] at same
  exact List.map_eq_append_iff.1 same

theorem optional {kinds : List TokenKind} {leaf : Option (Leaf kinds)} {tokens rest : List Token}
    (same : SameKinds tokens (optionalTokens leaf ++ rest)) :
    ∃ (other : Option (Leaf kinds)) (others : List Token),
      tokens = optionalTokens other ++ others ∧ SameKinds others rest := by
  cases leaf with
  | none => exact ⟨none, tokens, rfl, same⟩
  | some leaf =>
      obtain ⟨other, others, rfl, tail⟩ := SameKinds.leaf same
      exact ⟨some other, others, rfl, tail⟩

end SameKinds

theorem ArgumentPhrase.respell (phrase : ArgumentPhrase) {tokens : List Token}
    (same : SameKinds tokens phrase.tokens) :
    ∃ other : ArgumentPhrase, other.tokens = tokens := by
  cases phrase with
  | enclosed opener negation category label closer =>
      obtain ⟨opener, _, rfl, afterOpener⟩ := same.leaf
      obtain ⟨negation, _, rfl, afterNegation⟩ := afterOpener.optional
      obtain ⟨category, _, rfl, afterCategory⟩ := afterNegation.optional
      obtain ⟨label, _, rfl, afterLabel⟩ := afterCategory.leaf
      obtain ⟨closer, _, rfl, afterCloser⟩ := afterLabel.leaf
      cases afterCloser.nil
      exact ⟨.enclosed opener negation category label closer, rfl⟩
  | unenclosed negation regex =>
      obtain ⟨negation, _, rfl, afterNegation⟩ := same.optional
      obtain ⟨regex, _, rfl, afterRegex⟩ := afterNegation.leaf
      cases afterRegex.nil
      exact ⟨.unenclosed negation regex, rfl⟩

theorem OperationPhrase.respell (phrase : OperationPhrase) {tokens : List Token}
    (same : SameKinds tokens phrase.tokens) :
    ∃ other : OperationPhrase, other.tokens = tokens := by
  cases phrase with
  | plain operator number =>
      obtain ⟨operator, others, rfl, afterOperator⟩ := same.leaf
      rw [← List.append_nil (optionalTokens number)] at afterOperator
      obtain ⟨number, _, rfl, afterNumber⟩ := afterOperator.optional
      cases afterNumber.nil
      exact ⟨.plain operator number, by simp [OperationPhrase.tokens]⟩
  | chain operator argument =>
      obtain ⟨operator, _, rfl, afterOperator⟩ := same.leaf
      obtain ⟨argument, rfl⟩ := argument.respell afterOperator
      exact ⟨.chain operator argument, rfl⟩

theorem capture_respell (phrase : Option CapturePhrase) {tokens : List Token}
    (same : SameKinds tokens (captureTokens phrase)) :
    ∃ other : Option CapturePhrase, captureTokens other = tokens := by
  cases phrase with
  | none =>
      cases same.nil
      exact ⟨none, rfl⟩
  | some capture =>
      obtain ⟨equals, _, rfl, afterEquals⟩ := SameKinds.leaf same
      obtain ⟨name, _, rfl, afterName⟩ := afterEquals.leaf
      cases afterName.nil
      exact ⟨some ⟨equals, name⟩, rfl⟩

theorem groups_respell (phrases : List GroupPhrase) {tokens : List Token}
    (same : SameKinds tokens (phrases.flatMap GroupPhrase.tokens)) :
    ∃ others : List GroupPhrase, others.flatMap GroupPhrase.tokens = tokens := by
  induction phrases generalizing tokens with
  | nil =>
      cases same.nil
      exact ⟨[], rfl⟩
  | cons phrase phrases ih =>
      obtain ⟨hash, _, rfl, afterHash⟩ := SameKinds.leaf same
      obtain ⟨number, _, rfl, afterNumber⟩ := SameKinds.leaf afterHash
      obtain ⟨equals, _, rfl, afterEquals⟩ := SameKinds.leaf afterNumber
      obtain ⟨name, _, rfl, afterName⟩ := SameKinds.leaf afterEquals
      obtain ⟨others, rfl⟩ := ih afterName
      exact ⟨⟨hash, number, equals, name⟩ :: others, rfl⟩

theorem DescriptionPhrase.respell (phrase : DescriptionPhrase) {tokens : List Token}
    (same : SameKinds tokens phrase.tokens) :
    ∃ other : DescriptionPhrase, other.tokens = tokens := by
  obtain ⟨negation, category, bare⟩ := phrase
  obtain ⟨negation, _, rfl, afterNegation⟩ := same.optional
  obtain ⟨category, _, rfl, afterCategory⟩ := afterNegation.optional
  cases bare with
  | labelled label groups capture =>
      obtain ⟨label, _, rfl, afterLabel⟩ := afterCategory.leaf
      obtain ⟨_, _, rfl, sameGroups, afterGroups⟩ := afterLabel.append
      obtain ⟨groups, rfl⟩ := groups_respell groups sameGroups
      obtain ⟨capture, rfl⟩ := capture_respell capture afterGroups
      exact ⟨⟨negation, category, .labelled label groups capture⟩, rfl⟩
  | linked tilde target capture =>
      obtain ⟨tilde, _, rfl, afterTilde⟩ := afterCategory.leaf
      obtain ⟨target, _, rfl, afterTarget⟩ := afterTilde.leaf
      obtain ⟨capture, rfl⟩ := capture_respell capture afterTarget
      exact ⟨⟨negation, category, .linked tilde target capture⟩, rfl⟩
  | backreferenced equals target =>
      obtain ⟨equals, _, rfl, afterEquals⟩ := afterCategory.leaf
      obtain ⟨target, _, rfl, afterTarget⟩ := afterEquals.leaf
      cases afterTarget.nil
      exact ⟨⟨negation, category, .backreferenced equals target⟩, rfl⟩

mutual

theorem NodePhrase.respell : (phrase : NodePhrase) → ∀ {tokens : List Token},
    SameKinds tokens phrase.tokens → ∃ other : NodePhrase, other.tokens = tokens
  | .enclosed opener inner closer, tokens, same => by
      rw [NodePhrase.tokens] at same
      obtain ⟨opener, _, rfl, afterOpener⟩ := same.leaf
      obtain ⟨_, _, rfl, sameInner, afterInner⟩ := afterOpener.append
      obtain ⟨inner, rfl⟩ := inner.respell sameInner
      obtain ⟨closer, _, rfl, afterCloser⟩ := afterInner.leaf
      cases afterCloser.nil
      exact ⟨.enclosed opener inner closer, by rw [NodePhrase.tokens]⟩
  | .label description, tokens, same => by
      rw [NodePhrase.tokens] at same
      obtain ⟨description, rfl⟩ := description.respell same
      exact ⟨.label description, by rw [NodePhrase.tokens]⟩

theorem SubNodePhrase.respell : (phrase : SubNodePhrase) → ∀ {tokens : List Token},
    SameKinds tokens phrase.tokens → ∃ other : SubNodePhrase, other.tokens = tokens
  | .alone node, tokens, same => by
      rw [SubNodePhrase.tokens] at same
      obtain ⟨node, rfl⟩ := node.respell same
      exact ⟨.alone node, by rw [SubNodePhrase.tokens]⟩
  | .above node children, tokens, same => by
      rw [SubNodePhrase.tokens] at same
      obtain ⟨_, _, rfl, sameNode, afterNode⟩ := same.append
      obtain ⟨node, rfl⟩ := node.respell sameNode
      obtain ⟨children, rfl⟩ := children.respell afterNode
      exact ⟨.above node children, by rw [SubNodePhrase.tokens]⟩

theorem DisjunctionPhrase.respell : (phrase : DisjunctionPhrase) → ∀ {tokens : List Token},
    SameKinds tokens phrase.tokens → ∃ other : DisjunctionPhrase, other.tokens = tokens
  | .of first others, tokens, same => by
      rw [DisjunctionPhrase.tokens] at same
      obtain ⟨_, _, rfl, sameFirst, afterFirst⟩ := same.append
      obtain ⟨first, rfl⟩ := first.respell sameFirst
      obtain ⟨others, rfl⟩ := others.respell afterFirst
      exact ⟨.of first others, by rw [DisjunctionPhrase.tokens]⟩

theorem DisjunctsPhrase.respell : (phrase : DisjunctsPhrase) → ∀ {tokens : List Token},
    SameKinds tokens phrase.tokens → ∃ other : DisjunctsPhrase, other.tokens = tokens
  | .nil, tokens, same => by
      rw [DisjunctsPhrase.tokens] at same
      cases same.nil
      exact ⟨.nil, by rw [DisjunctsPhrase.tokens]⟩
  | .cons bar next others, tokens, same => by
      rw [DisjunctsPhrase.tokens] at same
      obtain ⟨bar, _, rfl, afterBar⟩ := same.leaf
      obtain ⟨_, _, rfl, sameNext, afterNext⟩ := afterBar.append
      obtain ⟨next, rfl⟩ := next.respell sameNext
      obtain ⟨others, rfl⟩ := others.respell afterNext
      exact ⟨.cons bar next others, by rw [DisjunctsPhrase.tokens]⟩

theorem ConjunctionPhrase.respell : (phrase : ConjunctionPhrase) → ∀ {tokens : List Token},
    SameKinds tokens phrase.tokens → ∃ other : ConjunctionPhrase, other.tokens = tokens
  | .of first others, tokens, same => by
      rw [ConjunctionPhrase.tokens] at same
      obtain ⟨_, _, rfl, sameFirst, afterFirst⟩ := same.append
      obtain ⟨first, rfl⟩ := first.respell sameFirst
      obtain ⟨others, rfl⟩ := others.respell afterFirst
      exact ⟨.of first others, by rw [ConjunctionPhrase.tokens]⟩

theorem ConjunctsPhrase.respell : (phrase : ConjunctsPhrase) → ∀ {tokens : List Token},
    SameKinds tokens phrase.tokens → ∃ other : ConjunctsPhrase, other.tokens = tokens
  | .nil, tokens, same => by
      rw [ConjunctsPhrase.tokens] at same
      cases same.nil
      exact ⟨.nil, by rw [ConjunctsPhrase.tokens]⟩
  | .cons joint next others, tokens, same => by
      rw [ConjunctsPhrase.tokens] at same
      obtain ⟨joint, _, rfl, afterJoint⟩ := same.optional
      obtain ⟨_, _, rfl, sameNext, afterNext⟩ := afterJoint.append
      obtain ⟨next, rfl⟩ := next.respell sameNext
      obtain ⟨others, rfl⟩ := others.respell afterNext
      exact ⟨.cons joint next others, by rw [ConjunctsPhrase.tokens]⟩

theorem ConstraintPhrase.respell : (phrase : ConstraintPhrase) → ∀ {tokens : List Token},
    SameKinds tokens phrase.tokens → ∃ other : ConstraintPhrase, other.tokens = tokens
  | .plain constraint, tokens, same => by
      rw [ConstraintPhrase.tokens] at same
      obtain ⟨constraint, rfl⟩ := constraint.respell same
      exact ⟨.plain constraint, by rw [ConstraintPhrase.tokens]⟩
  | .negated bang constraint, tokens, same => by
      rw [ConstraintPhrase.tokens] at same
      obtain ⟨bang, _, rfl, afterBang⟩ := same.leaf
      obtain ⟨constraint, rfl⟩ := constraint.respell afterBang
      exact ⟨.negated bang constraint, by rw [ConstraintPhrase.tokens]⟩
  | .optional question constraint, tokens, same => by
      rw [ConstraintPhrase.tokens] at same
      obtain ⟨question, _, rfl, afterQuestion⟩ := same.leaf
      obtain ⟨constraint, rfl⟩ := constraint.respell afterQuestion
      exact ⟨.optional question constraint, by rw [ConstraintPhrase.tokens]⟩

theorem PlainPhrase.respell : (phrase : PlainPhrase) → ∀ {tokens : List Token},
    SameKinds tokens phrase.tokens → ∃ other : PlainPhrase, other.tokens = tokens
  | .group opener members closer, tokens, same => by
      rw [PlainPhrase.tokens] at same
      obtain ⟨opener, _, rfl, afterOpener⟩ := same.leaf
      obtain ⟨_, _, rfl, sameMembers, afterMembers⟩ := afterOpener.append
      obtain ⟨members, rfl⟩ := members.respell sameMembers
      obtain ⟨closer, _, rfl, afterCloser⟩ := afterMembers.leaf
      cases afterCloser.nil
      exact ⟨.group opener members closer, by rw [PlainPhrase.tokens]⟩
  | .related operation node, tokens, same => by
      rw [PlainPhrase.tokens] at same
      obtain ⟨_, _, rfl, sameOperation, afterOperation⟩ := same.append
      obtain ⟨operation, rfl⟩ := operation.respell sameOperation
      obtain ⟨node, rfl⟩ := node.respell afterOperation
      exact ⟨.related operation node, by rw [PlainPhrase.tokens]⟩

end

theorem derives_iff {tokens : List Token} :
    Derives (tokens.map Token.kind) ↔ ∃ phrase : PatternPhrase, phrase.tokens = tokens := by
  constructor
  · rintro ⟨⟨top, terminator⟩, same⟩
    have same : SameKinds tokens (top.tokens ++ [terminator.token]) := same.symm
    obtain ⟨_, _, rfl, sameTop, afterTop⟩ := same.append
    obtain ⟨top, rfl⟩ := top.respell sameTop
    obtain ⟨terminator, _, rfl, afterTerminator⟩ := afterTop.leaf
    cases afterTerminator.nil
    exact ⟨⟨top, terminator⟩, rfl⟩
  · rintro ⟨phrase, rfl⟩
    exact ⟨phrase, rfl⟩

def argumentKinds : List TokenKind :=
  [.leftParen, .rightParen, .bang, .atSign, .identifier, .regex, .blank]

def operationKinds : List TokenKind := .operator :: .chainOperator :: .number :: argumentKinds

def descriptionKinds : List TokenKind :=
  [.bang, .atSign, .identifier, .regex, .blank, .hash, .number, .equals, .tilde]

-- All but the terminator and the end of the input.
def phraseKinds : List TokenKind :=
  [.identifier, .number, .blank, .regex, .operator, .chainOperator, .leftParen, .rightParen, .bang,
    .atSign, .hash, .equals, .tilde, .pipe, .ampersand, .question, .leftBracket, .rightBracket]

def Within (kinds : List TokenKind) (tokens : List Token) : Prop :=
  ∀ token ∈ tokens, token.kind ∈ kinds

section Within

variable {kinds others : List TokenKind} {token : Token} {tokens behind : List Token}

@[simp] theorem within_nil : Within kinds [] := List.forall_mem_nil _

@[simp] theorem within_cons :
    Within kinds (token :: tokens) ↔ token.kind ∈ kinds ∧ Within kinds tokens :=
  List.forall_mem_cons

@[simp] theorem within_append :
    Within kinds (tokens ++ behind) ↔ Within kinds tokens ∧ Within kinds behind :=
  List.forall_mem_append

theorem Within.mono (within : Within kinds tokens) (more : kinds ⊆ others) :
    Within others tokens := fun token inside => more (within token inside)

theorem Leaf.among (leaf : Leaf kinds) (more : kinds ⊆ others) : leaf.token.kind ∈ others :=
  more leaf.kind_mem

theorem optional_within {leaf : Option (Leaf kinds)} (more : kinds ⊆ others) :
    Within others (optionalTokens leaf) := by
  cases leaf with
  | none => exact within_nil
  | some leaf => exact within_cons.2 ⟨leaf.among more, within_nil⟩

end Within

theorem ArgumentPhrase.within (phrase : ArgumentPhrase) : Within argumentKinds phrase.tokens := by
  cases phrase with
  | enclosed opener negation category label closer =>
      have inside : label.token.kind ∈ argumentKinds := label.among (by decide)
      simp +decide [tokens, opener.kind_eq, optional_within, inside, closer.kind_eq]
  | unenclosed negation regex => simp +decide [tokens, optional_within, regex.kind_eq]

theorem OperationPhrase.within (phrase : OperationPhrase) : Within operationKinds phrase.tokens := by
  cases phrase with
  | plain operator number => simp +decide [tokens, operator.kind_eq, optional_within]
  | chain operator argument =>
      have inside : Within operationKinds argument.tokens := argument.within.mono (by decide)
      simp +decide [tokens, operator.kind_eq, inside]

theorem capture_within (capture : Option CapturePhrase) :
    Within descriptionKinds (captureTokens capture) := by
  cases capture with
  | none => exact within_nil
  | some capture => simp +decide [captureTokens, capture.equals.kind_eq, capture.name.kind_eq]

theorem groups_within (groups : List GroupPhrase) :
    Within descriptionKinds (groups.flatMap GroupPhrase.tokens) := by
  induction groups with
  | nil => exact within_nil
  | cons group groups ih =>
      simp +decide [GroupPhrase.tokens, group.hash.kind_eq, group.number.kind_eq,
        group.equals.kind_eq, group.name.kind_eq, ih]

theorem BarePhrase.within (phrase : BarePhrase) : Within descriptionKinds phrase.tokens := by
  cases phrase with
  | labelled label groups capture =>
      have inside : label.token.kind ∈ descriptionKinds := label.among (by decide)
      simp [tokens, inside, groups_within, capture_within]
  | linked tilde target capture =>
      simp +decide [tokens, tilde.kind_eq, target.kind_eq, capture_within]
  | backreferenced equals target => simp +decide [tokens, equals.kind_eq, target.kind_eq]

theorem DescriptionPhrase.within (phrase : DescriptionPhrase) :
    Within descriptionKinds phrase.tokens := by
  simp +decide [tokens, optional_within, phrase.bare.within]

mutual

theorem NodePhrase.within (phrase : NodePhrase) : Within phraseKinds phrase.tokens := by
  cases phrase with
  | enclosed opener inner closer =>
      simp +decide [NodePhrase.tokens, opener.kind_eq, inner.within, closer.kind_eq]
  | label description =>
      rw [NodePhrase.tokens]
      exact description.within.mono (by decide)

theorem SubNodePhrase.within (phrase : SubNodePhrase) : Within phraseKinds phrase.tokens := by
  cases phrase with
  | alone node => simp [SubNodePhrase.tokens, node.within]
  | above node children => simp [SubNodePhrase.tokens, node.within, children.within]

theorem DisjunctionPhrase.within (phrase : DisjunctionPhrase) :
    Within phraseKinds phrase.tokens := by
  cases phrase with
  | of first others => simp [DisjunctionPhrase.tokens, first.within, others.within]

theorem DisjunctsPhrase.within (phrase : DisjunctsPhrase) : Within phraseKinds phrase.tokens := by
  cases phrase with
  | nil => exact within_nil
  | cons bar next others =>
      simp +decide [DisjunctsPhrase.tokens, bar.kind_eq, next.within, others.within]

theorem ConjunctionPhrase.within (phrase : ConjunctionPhrase) :
    Within phraseKinds phrase.tokens := by
  cases phrase with
  | of first others => simp [ConjunctionPhrase.tokens, first.within, others.within]

theorem ConjunctsPhrase.within (phrase : ConjunctsPhrase) : Within phraseKinds phrase.tokens := by
  cases phrase with
  | nil => exact within_nil
  | cons joint next others =>
      simp +decide [ConjunctsPhrase.tokens, optional_within, next.within, others.within]

theorem ConstraintPhrase.within (phrase : ConstraintPhrase) : Within phraseKinds phrase.tokens := by
  cases phrase with
  | plain constraint => simp [ConstraintPhrase.tokens, constraint.within]
  | negated bang constraint =>
      simp +decide [ConstraintPhrase.tokens, bang.kind_eq, constraint.within]
  | optional question constraint =>
      simp +decide [ConstraintPhrase.tokens, question.kind_eq, constraint.within]

theorem PlainPhrase.within (phrase : PlainPhrase) : Within phraseKinds phrase.tokens := by
  cases phrase with
  | group opener members closer =>
      simp +decide [PlainPhrase.tokens, opener.kind_eq, members.within, closer.kind_eq]
  | related operation node =>
      have inside : Within phraseKinds operation.tokens := operation.within.mono (by decide)
      simp [PlainPhrase.tokens, inside, node.within]

end

def Unended (tokens : List Token) : Prop := ∀ token ∈ tokens, token.kind ≠ .endOfInput

theorem PatternPhrase.unended (phrase : PatternPhrase) : Unended phrase.tokens := by
  have kinds : Within (.semicolon :: phraseKinds) phrase.tokens :=
    within_append.2 ⟨phrase.top.within.mono (List.subset_cons_self _ _),
      within_cons.2 ⟨phrase.terminator.among (by decide), within_nil⟩⟩
  have apart : TokenKind.endOfInput ∉ TokenKind.semicolon :: phraseKinds := by decide
  intro token inside ended
  exact apart (ended ▸ kinds token inside)

theorem PatternPhrase.semicolons (phrase : PatternPhrase) :
    phrase.tokens.countP (·.kind = .semicolon) = 1 := by
  have apart : TokenKind.semicolon ∉ phraseKinds := by decide
  have none : phrase.top.tokens.countP (·.kind = .semicolon) = 0 := by
    apply List.countP_eq_zero.2
    intro token inside terminates
    exact apart (of_decide_eq_true terminates ▸ phrase.top.within token inside)
  rw [tokens, List.countP_append, none, List.countP_singleton, phrase.terminator.kind_eq]
  rfl

end TreeQuery.Grammar

import TreeQuery.Proofs.Grammar.Commute
import TreeQuery.Proofs.Text.Slice

/- Marks that a pattern can do without: a joint between two constraints, brackets around
   one member, parentheses around a whole node. With them or without, the pattern denotes
   the same tree, in every context, so that its parse is the same as well. -/
set_option autoImplicit false

namespace TreeQuery.Grammar

inductive Enclosure : Rule → Type where
  | disjunction (opener : Leaf [.leftBracket]) (closer : Leaf [.rightBracket]) :
      Enclosure .disjunction
  | constraint (opener : Leaf [.leftBracket]) (closer : Leaf [.rightBracket]) :
      Enclosure .constraint
  | plain (opener : Leaf [.leftBracket]) (closer : Leaf [.rightBracket]) : Enclosure .plain
  | subNode (opener : Leaf [.leftParen]) (closer : Leaf [.rightParen]) : Enclosure .subNode
  | node (opener : Leaf [.leftParen]) (closer : Leaf [.rightParen]) : Enclosure .node

namespace Enclosure

variable {rule : Rule}

def opener {rule : Rule} : Enclosure rule → Token
  | disjunction opener _ | constraint opener _ | plain opener _ => opener.token
  | subNode opener _ | node opener _ => opener.token

def closer {rule : Rule} : Enclosure rule → Token
  | disjunction _ closer | constraint _ closer | plain _ closer => closer.token
  | subNode _ closer | node _ closer => closer.token

def around {rule : Rule} : Enclosure rule → Context rule rule
  | disjunction opener closer => .inside (.firstBranch .nil) (.inside (.firstConjunct .nil)
      (.inside .unmodified (.inside (.group opener closer) .hole)))
  | constraint opener closer => .inside .unmodified (.inside (.group opener closer)
      (.inside (.firstBranch .nil) (.inside (.firstConjunct .nil) .hole)))
  | plain opener closer => .inside (.group opener closer) (.inside (.firstBranch .nil)
      (.inside (.firstConjunct .nil) (.inside .unmodified .hole)))
  | subNode opener closer => .inside .alone (.inside (.enclosed opener closer) .hole)
  | node opener closer => .inside (.enclosed opener closer) (.inside .alone .hole)

theorem around_tokens (enclosure : Enclosure rule) (part : rule.Phrase) :
    Rule.tokens (enclosure.around.fill part) =
      enclosure.opener :: (Rule.tokens part ++ [enclosure.closer]) := by
  have before : enclosure.around.before = [enclosure.opener] := by cases enclosure <;> rfl
  have behind : enclosure.around.behind = [enclosure.closer] := by cases enclosure <;> rfl
  rw [Context.fill_tokens, before, behind]
  rfl

theorem around_denote (resolver : Resolver) (relation : Relation) (enclosure : Enclosure rule)
    (part : rule.Phrase) :
    Rule.denote resolver relation (enclosure.around.fill part) =
      Rule.denote resolver relation part := by
  cases enclosure <;>
    simp [around, Context.fill, Frame.fill, Rule.denote, NodePhrase.denote, SubNodePhrase.denote,
      DisjunctionPhrase.denote, DisjunctsPhrase.denote, ConjunctionPhrase.denote,
      ConjunctsPhrase.denote, ConstraintPhrase.denote, PlainPhrase.denote, gathered]

end Enclosure

section Joints

variable {joint : Token} {front back before behind : List Token}

theorem Within.joint_behind {kinds : List TokenKind} (isJoint : joint.kind = .ampersand)
    (within : Within kinds front) (apart : .ampersand ∉ kinds)
    (split : front ++ back = before ++ joint :: behind) :
    ∃ rest, before = front ++ rest ∧ back = rest ++ joint :: behind := by
  obtain ⟨rest, rfl, -⟩ | later := append_split split
  · exact absurd (isJoint ▸ within joint (by simp)) apart
  · exact later

theorem Leaf.joint_behind {kinds : List TokenKind} (isJoint : joint.kind = .ampersand)
    (leaf : Leaf kinds) (apart : .ampersand ∉ kinds)
    (split : leaf.token :: back = before ++ joint :: behind) :
    ∃ rest, before = leaf.token :: rest ∧ back = rest ++ joint :: behind :=
  have inside : Within kinds [leaf.token] := within_cons.2 ⟨leaf.kind_mem, within_nil⟩
  inside.joint_behind isJoint apart split

theorem Leaf.joint_before {kinds : List TokenKind} (isJoint : joint.kind = .ampersand)
    (leaf : Leaf kinds) (apart : .ampersand ∉ kinds)
    (split : front ++ [leaf.token] = before ++ joint :: behind) :
    ∃ rest, front = before ++ joint :: rest ∧ behind = rest ++ [leaf.token] := by
  obtain inFront | ⟨rest, -, inLeaf⟩ := append_split split
  · exact inFront
  · obtain ⟨_, -, none⟩ := leaf.joint_behind isJoint apart inLeaf
    simp at none

end Joints

def JointAt {rule : Rule} (phrase : rule.Phrase) (before behind : List Token) : Prop :=
  ∃ (context : Context rule .conjuncts) (joint : Leaf [.ampersand]) (next : ConstraintPhrase)
    (others : ConjunctsPhrase),
    context.fill (ConjunctsPhrase.cons (some joint) next others) = phrase ∧
      context.before = before ∧ next.tokens ++ (others.tokens ++ context.behind) = behind

theorem JointAt.inside {outer inner : Rule} (frame : Frame outer inner) {part : inner.Phrase}
    {before behind : List Token} (found : JointAt part before behind) :
    JointAt (frame.fill part) (frame.before ++ before) (behind ++ frame.behind) := by
  obtain ⟨context, joint, next, others, rfl, rfl, rfl⟩ := found
  exact ⟨.inside frame context, joint, next, others, rfl, rfl, by simp [Context.behind]⟩

theorem JointAt.last {outer inner : Rule} (frame : Frame outer inner) {part : inner.Phrase}
    {before behind : List Token} (ends : frame.behind = []) (found : JointAt part before behind) :
    JointAt (frame.fill part) (frame.before ++ before) behind := by
  have inside := found.inside frame
  rwa [ends, List.append_nil] at inside

section Located

variable {joint : Token}

-- Wherever a joint is among the tokens of a phrase, one of its parts holds it, down to the
-- constraints that it joins: descriptions and operations have none.

mutual

theorem NodePhrase.joint_at (isJoint : joint.kind = .ampersand) : (phrase : NodePhrase) →
    ∀ {before behind : List Token}, phrase.tokens = before ++ joint :: behind →
      @JointAt .node phrase before behind
  | .enclosed opener inner closer, before, behind, split => by
      rw [NodePhrase.tokens] at split
      obtain ⟨before, rfl, later⟩ := opener.joint_behind isJoint (by decide) split
      obtain ⟨behind, inInner, rfl⟩ := closer.joint_before isJoint (by decide) later
      exact (inner.joint_at isJoint inInner).inside (.enclosed opener closer)
  | .label description, before, behind, split => by
      rw [NodePhrase.tokens] at split
      rw [← List.append_nil description.tokens] at split
      obtain ⟨rest, -, none⟩ := description.within.joint_behind isJoint (by decide) split
      simp at none

theorem SubNodePhrase.joint_at (isJoint : joint.kind = .ampersand) : (phrase : SubNodePhrase) →
    ∀ {before behind : List Token}, phrase.tokens = before ++ joint :: behind →
      @JointAt .subNode phrase before behind
  | .alone node, before, behind, split => by
      rw [SubNodePhrase.tokens] at split
      exact (node.joint_at isJoint split).last .alone rfl
  | .above node children, before, behind, split => by
      rw [SubNodePhrase.tokens] at split
      obtain ⟨behind, inNode, rfl⟩ | ⟨before, rfl, inChildren⟩ := append_split split
      · exact (node.joint_at isJoint inNode).inside (.overChildren children)
      · exact (children.joint_at isJoint inChildren).last (.underNode node) rfl

theorem DisjunctionPhrase.joint_at (isJoint : joint.kind = .ampersand) :
    (phrase : DisjunctionPhrase) → ∀ {before behind : List Token},
      phrase.tokens = before ++ joint :: behind → @JointAt .disjunction phrase before behind
  | .of first others, before, behind, split => by
      rw [DisjunctionPhrase.tokens] at split
      obtain ⟨behind, inFirst, rfl⟩ | ⟨before, rfl, inOthers⟩ := append_split split
      · exact (first.joint_at isJoint inFirst).inside (.firstBranch others)
      · exact (others.joint_at isJoint inOthers).last (.otherBranches first) rfl

theorem DisjunctsPhrase.joint_at (isJoint : joint.kind = .ampersand) :
    (phrase : DisjunctsPhrase) → ∀ {before behind : List Token},
      phrase.tokens = before ++ joint :: behind → @JointAt .disjuncts phrase before behind
  | .nil, before, behind, split => by simp [DisjunctsPhrase.tokens] at split
  | .cons bar next others, before, behind, split => by
      rw [DisjunctsPhrase.tokens] at split
      obtain ⟨before, rfl, later⟩ := bar.joint_behind isJoint (by decide) split
      obtain ⟨behind, inNext, rfl⟩ | ⟨before, rfl, inOthers⟩ := append_split later
      · exact (next.joint_at isJoint inNext).inside (.nextBranch bar others)
      · exact (others.joint_at isJoint inOthers).last (.laterBranches bar next) rfl

theorem ConjunctionPhrase.joint_at (isJoint : joint.kind = .ampersand) :
    (phrase : ConjunctionPhrase) → ∀ {before behind : List Token},
      phrase.tokens = before ++ joint :: behind → @JointAt .conjunction phrase before behind
  | .of first others, before, behind, split => by
      rw [ConjunctionPhrase.tokens] at split
      obtain ⟨behind, inFirst, rfl⟩ | ⟨before, rfl, inOthers⟩ := append_split split
      · exact (first.joint_at isJoint inFirst).inside (.firstConjunct others)
      · exact (others.joint_at isJoint inOthers).last (.otherConjuncts first) rfl

theorem ConjunctsPhrase.joint_at (isJoint : joint.kind = .ampersand) :
    (phrase : ConjunctsPhrase) → ∀ {before behind : List Token},
      phrase.tokens = before ++ joint :: behind → @JointAt .conjuncts phrase before behind
  | .nil, before, behind, split => by simp [ConjunctsPhrase.tokens] at split
  | .cons mark next others, before, behind, split => by
      rw [ConjunctsPhrase.tokens] at split
      obtain ⟨rest, inMark, rfl⟩ | ⟨before, rfl, later⟩ := append_split split
      · cases mark with
        | none => simp [optionalTokens] at inMark
        | some mark =>
            obtain ⟨rfl, rfl, rfl⟩ : before = [] ∧ joint = mark.token ∧ rest = [] := by
              simpa [optionalTokens, List.singleton_eq_append_iff] using inMark
            exact ⟨.hole, mark, next, others, rfl, rfl, by simp [Context.behind]⟩
      · obtain ⟨behind, inNext, rfl⟩ | ⟨before, rfl, inOthers⟩ := append_split later
        · exact (next.joint_at isJoint inNext).inside (.nextConjunct mark others)
        · rw [← List.append_assoc]
          exact (others.joint_at isJoint inOthers).last (.laterConjuncts mark next) rfl

theorem ConstraintPhrase.joint_at (isJoint : joint.kind = .ampersand) :
    (phrase : ConstraintPhrase) → ∀ {before behind : List Token},
      phrase.tokens = before ++ joint :: behind → @JointAt .constraint phrase before behind
  | .plain constraint, before, behind, split => by
      rw [ConstraintPhrase.tokens] at split
      exact (constraint.joint_at isJoint split).last .unmodified rfl
  | .negated bang constraint, before, behind, split => by
      rw [ConstraintPhrase.tokens] at split
      obtain ⟨before, rfl, later⟩ := bang.joint_behind isJoint (by decide) split
      exact (constraint.joint_at isJoint later).last (.negated bang) rfl
  | .optional question constraint, before, behind, split => by
      rw [ConstraintPhrase.tokens] at split
      obtain ⟨before, rfl, later⟩ := question.joint_behind isJoint (by decide) split
      exact (constraint.joint_at isJoint later).last (.optional question) rfl

theorem PlainPhrase.joint_at (isJoint : joint.kind = .ampersand) : (phrase : PlainPhrase) →
    ∀ {before behind : List Token}, phrase.tokens = before ++ joint :: behind →
      @JointAt .plain phrase before behind
  | .group opener members closer, before, behind, split => by
      rw [PlainPhrase.tokens] at split
      obtain ⟨before, rfl, later⟩ := opener.joint_behind isJoint (by decide) split
      obtain ⟨behind, inMembers, rfl⟩ := closer.joint_before isJoint (by decide) later
      exact (members.joint_at isJoint inMembers).inside (.group opener closer)
  | .related operation node, before, behind, split => by
      rw [PlainPhrase.tokens] at split
      obtain ⟨before, rfl, later⟩ := operation.within.joint_behind isJoint (by decide) split
      exact (node.joint_at isJoint later).last (.related operation) rfl

end

end Located

section Same

variable {resolver : Resolver} {parsed : Parsed}

-- A phrase that denotes what an accepted one denotes is accepted with the same tree and
-- the same names, unless it is nested too deep.
theorem parse_tokens_same {tokens others : List Token} {phrase other : PatternPhrase}
    (accepted : parseTokens resolver tokens = .ok parsed)
    (read : (TokenStream.ofTokens tokens).upcoming = phrase.tokens)
    (readToo : (TokenStream.ofTokens others).upcoming = other.tokens)
    (same : other.denote resolver = phrase.denote resolver) :
    (other.top.nesting ≤ maxNesting → parseTokens resolver others = .ok parsed) ∧
      (¬ other.top.nesting ≤ maxNesting →
        ∃ limit position, parseTokens resolver others = .error (.nestingTooDeep limit position)) := by
  obtain ⟨-, names, found⟩ := parse_tokens_accepts read accepted
  obtain ⟨listed, behind, namesListed⟩ := parse_tokens_scope accepted
  obtain ⟨denoted, declared⟩ := outcome_of_eq_some.1 found
  cases Option.some.inj (declared.symm.trans behind)
  have foundToo : other.outcome ⟨resolver, true⟩ = some (parsed.top, names) :=
    outcome_of_eq_some.2 ⟨same.trans denoted, declared⟩
  have parsedEq : parsed = ⟨parsed.top, names.names⟩ := by rw [← namesListed]
  cases parse_tokens_of_outcome readToo foundToo with
  | inl parses =>
      constructor
      · intro _
        rw [parsedEq]
        exact parses
      · intro tooDeep
        exact absurd (parse_tokens_accepts readToo parses).1 tooDeep
  | inr refused => exact ⟨fun fits => absurd fits refused.1, fun _ => refused.2⟩

theorem Context.parse_tokens_same {rule : Rule} (context : Context .subNode rule)
    {part : rule.Phrase} {terminator : Leaf [.semicolon]} {rest : List Token} (other : rule.Phrase)
    (accepted : parseTokens resolver (context.before ++ Rule.tokens part ++ context.behind ++
      terminator.token :: rest) = .ok parsed)
    (same : ∀ relation, Rule.denote resolver relation other = Rule.denote resolver relation part) :
    (Rule.nesting (context.fill other) ≤ maxNesting →
        parseTokens resolver (context.before ++ Rule.tokens other ++ context.behind ++
          terminator.token :: rest) = .ok parsed) ∧
      (¬ Rule.nesting (context.fill other) ≤ maxNesting →
        ∃ limit position, parseTokens resolver (context.before ++ Rule.tokens other ++
          context.behind ++ terminator.token :: rest) = .error (.nestingTooDeep limit position)) := by
  rw [← pattern_tokens] at accepted ⊢
  have denotes : (context.pattern terminator other).denote resolver =
      (context.pattern terminator part).denote resolver := by
    change Rule.denote resolver Relation.root (context.fill other) =
      Rule.denote resolver Relation.root (context.fill part)
    rw [context.fill_denote, context.fill_denote]
    simp only [same]
  exact Grammar.parse_tokens_same accepted (parse_tokens_upcoming accepted)
    (parse_tokens_upcoming accepted) denotes

-- Joints do not nest, and nothing is read from them.
theorem Context.parse_tokens_joint {context : Context .subNode .conjuncts}
    {next : ConstraintPhrase} {others : ConjunctsPhrase} {terminator : Leaf [.semicolon]}
    {rest : List Token} (mark other : Option (Leaf [.ampersand]))
    (accepted : parseTokens resolver (context.before ++ (optionalTokens mark ++
      (next.tokens ++ others.tokens)) ++ context.behind ++ terminator.token :: rest) = .ok parsed) :
    parseTokens resolver (context.before ++ (optionalTokens other ++ (next.tokens ++
      others.tokens)) ++ context.behind ++ terminator.token :: rest) = .ok parsed := by
  have spelt (mark : Option (Leaf [.ampersand])) :
      optionalTokens mark ++ (next.tokens ++ others.tokens) =
        @Rule.tokens .conjuncts (ConjunctsPhrase.cons mark next others) := by
    rw [Rule.tokens, ConjunctsPhrase.tokens]
  rw [spelt] at accepted ⊢
  have nests : @Rule.nesting .conjuncts (ConjunctsPhrase.cons other next others) ≤
      @Rule.nesting .conjuncts (ConjunctsPhrase.cons mark next others) := by
    simp only [Rule.nesting, ConjunctsPhrase.nesting, Nat.le_refl]
  have same (relation : Relation) :
      @Rule.denote resolver relation .conjuncts (ConjunctsPhrase.cons other next others) =
        @Rule.denote resolver relation .conjuncts (ConjunctsPhrase.cons mark next others) := by
    simp only [Rule.denote, ConjunctsPhrase.denote]
  have fits := Nat.le_trans (context.fill_nesting_le nests) (accepted_part accepted).1
  exact (context.parse_tokens_same (ConjunctsPhrase.cons other next others) accepted same).1 fits

theorem unread_without {joint : Token} {later behind : List Token} (inside : joint.kind ≠ .endOfInput)
    (unread : (later ++ joint :: behind).takeWhile (·.kind ≠ .endOfInput) = []) :
    (later ++ behind).takeWhile (·.kind ≠ .endOfInput) = [] := by
  cases later with
  | nil => simp [inside] at unread
  | cons token later =>
      have ended : token.kind = .endOfInput := by
        by_contra other
        simp [other] at unread
      simp [ended]

theorem parse_tokens_without_joint {before behind : List Token} {joint : Token}
    (isJoint : joint.kind = .ampersand)
    (accepted : parseTokens resolver (before ++ joint :: behind) = .ok parsed) :
    parseTokens resolver (before ++ behind) = .ok parsed := by
  obtain ⟨phrase, names, read, fits, -⟩ := parse_tokens_outcome accepted
  obtain ⟨rest, split⟩ : ∃ rest, phrase.tokens ++ rest = before ++ joint :: behind := by
    rw [read]
    exact ⟨_, List.takeWhile_append_dropWhile⟩
  have whole : (TokenStream.ofTokens (before ++ joint :: behind)).upcoming =
      phrase.tokens ++ rest.takeWhile (·.kind ≠ .endOfInput) := by
    rw [← split]
    exact TokenStream.of_tokens_append phrase.unended
  have unread := parse_tokens_all_read whole accepted
  obtain ⟨ahead, inPhrase, rfl⟩ | ⟨later, rfl, inRest⟩ := append_split split
  · obtain ⟨top, terminator⟩ := phrase
    obtain ⟨inner, inTop, rfl⟩ := terminator.joint_before isJoint (by decide) inPhrase
    obtain ⟨context, mark, next, others, rfl, rfl, rfl⟩ := top.joint_at isJoint inTop
    rw [← split] at accepted
    change parseTokens resolver ((context.pattern terminator
      (ConjunctsPhrase.cons (some mark) next others)).tokens ++ rest) = _ at accepted
    rw [Context.pattern_tokens, Rule.tokens, ConjunctsPhrase.tokens] at accepted
    have accepts := Context.parse_tokens_joint (some mark) none accepted
    simpa [optionalTokens] using accepts
  · rw [inRest] at unread
    have readToo : (TokenStream.ofTokens (phrase.tokens ++ later ++ behind)).upcoming =
        phrase.tokens := by
      rw [List.append_assoc, TokenStream.of_tokens_append phrase.unended,
        unread_without (by simp [isJoint]) unread, List.append_nil]
    exact (parse_tokens_same accepted read.symm readToo rfl).1 fits

/-- Redundant marks do not matter. A joint may be left out of an accepted list of tokens, or put
between two constraints that have none; brackets may be put around what follows a node, around
a constraint and around what a modifier belongs to, and parentheses around a node with its
constraints or without. The list stays accepted, with the same tree and the same names, unless
such a pair nests it too deep. -/
theorem parse_tokens_redundant {tokens : List Token}
    (accepted : parseTokens resolver tokens = .ok parsed) :
    (∀ (before behind : List Token) (joint : Token), tokens = before ++ joint :: behind →
      joint.kind = .ampersand → parseTokens resolver (before ++ behind) = .ok parsed) ∧
    (∀ (context : Context .subNode .conjuncts) (joint : Leaf [.ampersand]) (next : ConstraintPhrase)
        (others : ConjunctsPhrase) (terminator : Leaf [.semicolon]) (rest : List Token),
      tokens = context.before ++ (next.tokens ++ others.tokens) ++ context.behind ++
          terminator.token :: rest →
        parseTokens resolver (context.before ++ joint.token :: (next.tokens ++ others.tokens) ++
          context.behind ++ terminator.token :: rest) = .ok parsed) ∧
    ∀ (rule : Rule) (enclosure : Enclosure rule) (context : Context .subNode rule)
        (part : rule.Phrase) (terminator : Leaf [.semicolon]) (rest : List Token),
      tokens = context.before ++ Rule.tokens part ++ context.behind ++ terminator.token :: rest →
        (Rule.nesting (context.fill (enclosure.around.fill part)) ≤ maxNesting →
          parseTokens resolver (context.before ++ (enclosure.opener :: (Rule.tokens part ++
            [enclosure.closer])) ++ context.behind ++ terminator.token :: rest) = .ok parsed) ∧
        (¬ Rule.nesting (context.fill (enclosure.around.fill part)) ≤ maxNesting →
          ∃ limit position, parseTokens resolver (context.before ++ (enclosure.opener ::
            (Rule.tokens part ++ [enclosure.closer])) ++ context.behind ++
              terminator.token :: rest) = .error (.nestingTooDeep limit position)) := by
  refine ⟨?_, ?_, ?_⟩
  · rintro before behind joint rfl isJoint
    exact parse_tokens_without_joint isJoint accepted
  · rintro context joint next others terminator rest rfl
    exact Context.parse_tokens_joint none (some joint) accepted
  · rintro rule enclosure context part terminator rest rfl
    rw [← enclosure.around_tokens]
    exact context.parse_tokens_same (enclosure.around.fill part) accepted fun relation =>
      enclosure.around_denote resolver relation part

theorem parse_tokens_redundant_marks :
    let top := (NodePhrase.captured "S" "s").tokens
    let first := (ConstraintPhrase.captured "A" "a").tokens
    let second := (ConstraintPhrase.captured "B" "b").tokens
    let third := (ConstraintPhrase.captured "C" "c").tokens
    let joint := (Leaf.word .ampersand "&").token
    let opener := (Leaf.word .leftBracket "[").token
    let closer := (Leaf.word .rightBracket "]").token
    let final := [(Leaf.word .semicolon ";").token]
    ∃ parsed, parsed.root.render = "S=s < A=a < B=b < C=c".toList ∧
      parseTokens .standard (top ++ first ++ joint :: (second ++ third ++ final)) = .ok parsed ∧
      parseTokens .standard (top ++ first ++ (second ++ third ++ final)) = .ok parsed ∧
      parseTokens .standard (top ++ first ++ joint :: (second ++ joint :: (third ++ final))) =
        .ok parsed ∧
      parseTokens .standard (top ++ opener :: (first ++ joint :: (second ++ third ++
        closer :: final))) = .ok parsed := by
  intro top first second third joint opener closer final
  have accepted : (parseTokens .standard (top ++ first ++ joint :: (second ++ third ++
      final))).toOption.map (·.root.render) = some "S=s < A=a < B=b < C=c".toList := by
    decide +kernel
  obtain ⟨parsed, found, printed⟩ := Option.map_eq_some_iff.1 accepted
  have parses := to_option_eq_some.1 found
  obtain ⟨without, joined, around⟩ := parse_tokens_redundant parses
  let others : ConjunctsPhrase := .cons none (.captured "C" "c") .nil
  let conjuncts : ConjunctsPhrase :=
    .cons (some (.word .ampersand "&")) (.captured "B" "b") others
  let branches : Context .subNode .disjunction := .inside (.underNode (.captured "S" "s")) .hole
  let context : Context .subNode .conjuncts := .inside (.underNode (.captured "S" "s"))
    (.inside (.firstBranch .nil) (.inside (.otherConjuncts (.captured "A" "a"))
      (.inside (.laterConjuncts (some (.word .ampersand "&")) (.captured "B" "b")) .hole)))
  refine ⟨parsed, printed, parses, ?_, ?_, ?_⟩
  · exact without (top ++ first) (second ++ third ++ final) joint rfl rfl
  · exact joined context (.word .ampersand "&") (.captured "C" "c") .nil (.word .semicolon ";") [] rfl
  · exact (around .disjunction (.disjunction (.word .leftBracket "[") (.word .rightBracket "]"))
      branches (.of (.of (.captured "A" "a") conjuncts) .nil) (.word .semicolon ";") [] rfl).1
        (by decide)

end Same

end TreeQuery.Grammar

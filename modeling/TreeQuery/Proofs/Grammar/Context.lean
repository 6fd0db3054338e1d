import TreeQuery.Proofs.Grammar.Derivation

/- Phrases inside phrases. A frame is a phrase with one of its direct parts left out, a
   context one with a part left out at any depth. The tokens and the tree of a filled
   context are put together from those of the context and those of what fills it. -/
set_option autoImplicit false

namespace TreeQuery.Grammar

inductive Rule where
  | node
  | subNode
  | disjunction
  | disjuncts
  | conjunction
  | conjuncts
  | constraint
  | plain

namespace Rule

abbrev Phrase : Rule → Type
  | node => NodePhrase
  | subNode => SubNodePhrase
  | disjunction => DisjunctionPhrase
  | disjuncts => DisjunctsPhrase
  | conjunction => ConjunctionPhrase
  | conjuncts => ConjunctsPhrase
  | constraint => ConstraintPhrase
  | plain => PlainPhrase

abbrev Value : Rule → Type
  | node | subNode => Described
  | disjunction | conjunction | constraint | plain => Node
  | disjuncts | conjuncts => List Node

def tokens : {rule : Rule} → rule.Phrase → List Token
  | node, phrase => NodePhrase.tokens phrase
  | subNode, phrase => SubNodePhrase.tokens phrase
  | disjunction, phrase => DisjunctionPhrase.tokens phrase
  | disjuncts, phrase => DisjunctsPhrase.tokens phrase
  | conjunction, phrase => ConjunctionPhrase.tokens phrase
  | conjuncts, phrase => ConjunctsPhrase.tokens phrase
  | constraint, phrase => ConstraintPhrase.tokens phrase
  | plain, phrase => PlainPhrase.tokens phrase

def nesting : {rule : Rule} → rule.Phrase → Nat
  | node, phrase => NodePhrase.nesting phrase
  | subNode, phrase => SubNodePhrase.nesting phrase
  | disjunction, phrase => DisjunctionPhrase.nesting phrase
  | disjuncts, phrase => DisjunctsPhrase.nesting phrase
  | conjunction, phrase => ConjunctionPhrase.nesting phrase
  | conjuncts, phrase => ConjunctsPhrase.nesting phrase
  | constraint, phrase => ConstraintPhrase.nesting phrase
  | plain, phrase => PlainPhrase.nesting phrase

-- The relation is that of a node to the one it hangs from. The other rules bring
-- their own.
def denote (resolver : Resolver) (relation : Relation) :
    {rule : Rule} → rule.Phrase → Option rule.Value
  | node, phrase => NodePhrase.denote resolver relation phrase
  | subNode, phrase => SubNodePhrase.denote resolver relation phrase
  | disjunction, phrase => DisjunctionPhrase.denote resolver phrase
  | disjuncts, phrase => DisjunctsPhrase.denote resolver phrase
  | conjunction, phrase => ConjunctionPhrase.denote resolver phrase
  | conjuncts, phrase => ConjunctsPhrase.denote resolver phrase
  | constraint, phrase => ConstraintPhrase.denote resolver phrase
  | plain, phrase => PlainPhrase.denote resolver phrase

end Rule

-- A frame of the one rule with a direct part by the other left out.
inductive Frame : Rule → Rule → Type where
  | enclosed (opener : Leaf [.leftParen]) (closer : Leaf [.rightParen]) : Frame .node .subNode
  | alone : Frame .subNode .node
  | overChildren (children : DisjunctionPhrase) : Frame .subNode .node
  | underNode (node : NodePhrase) : Frame .subNode .disjunction
  | firstBranch (others : DisjunctsPhrase) : Frame .disjunction .conjunction
  | otherBranches (first : ConjunctionPhrase) : Frame .disjunction .disjuncts
  | nextBranch (bar : Leaf [.pipe]) (others : DisjunctsPhrase) : Frame .disjuncts .conjunction
  | laterBranches (bar : Leaf [.pipe]) (next : ConjunctionPhrase) : Frame .disjuncts .disjuncts
  | firstConjunct (others : ConjunctsPhrase) : Frame .conjunction .constraint
  | otherConjuncts (first : ConstraintPhrase) : Frame .conjunction .conjuncts
  | nextConjunct (joint : Option (Leaf [.ampersand])) (others : ConjunctsPhrase) :
      Frame .conjuncts .constraint
  | laterConjuncts (joint : Option (Leaf [.ampersand])) (next : ConstraintPhrase) :
      Frame .conjuncts .conjuncts
  | unmodified : Frame .constraint .plain
  | negated (bang : Leaf [.bang]) : Frame .constraint .plain
  | optional (question : Leaf [.question]) : Frame .constraint .plain
  | group (opener : Leaf [.leftBracket]) (closer : Leaf [.rightBracket]) : Frame .plain .disjunction
  | related (operation : OperationPhrase) : Frame .plain .node

namespace Frame

variable {outer inner : Rule}

def fill {outer inner : Rule} : Frame outer inner → inner.Phrase → outer.Phrase
  | enclosed opener closer, part => NodePhrase.enclosed opener part closer
  | alone, part => SubNodePhrase.alone part
  | overChildren children, part => SubNodePhrase.above part children
  | underNode node, part => SubNodePhrase.above node part
  | firstBranch others, part => DisjunctionPhrase.of part others
  | otherBranches first, part => DisjunctionPhrase.of first part
  | nextBranch bar others, part => DisjunctsPhrase.cons bar part others
  | laterBranches bar next, part => DisjunctsPhrase.cons bar next part
  | firstConjunct others, part => ConjunctionPhrase.of part others
  | otherConjuncts first, part => ConjunctionPhrase.of first part
  | nextConjunct joint others, part => ConjunctsPhrase.cons joint part others
  | laterConjuncts joint next, part => ConjunctsPhrase.cons joint next part
  | unmodified, part => ConstraintPhrase.plain part
  | negated bang, part => ConstraintPhrase.negated bang part
  | optional question, part => ConstraintPhrase.optional question part
  | group opener closer, part => PlainPhrase.group opener part closer
  | related operation, part => PlainPhrase.related operation part

def before {outer inner : Rule} : Frame outer inner → List Token
  | enclosed opener _ => [opener.token]
  | alone | overChildren _ | firstBranch _ | firstConjunct _ | unmodified => []
  | underNode node => node.tokens
  | otherBranches first => first.tokens
  | nextBranch bar _ => [bar.token]
  | laterBranches bar next => bar.token :: next.tokens
  | otherConjuncts first => first.tokens
  | nextConjunct joint _ => optionalTokens joint
  | laterConjuncts joint next => optionalTokens joint ++ next.tokens
  | negated bang => [bang.token]
  | optional question => [question.token]
  | group opener _ => [opener.token]
  | related operation => operation.tokens

def behind {outer inner : Rule} : Frame outer inner → List Token
  | enclosed _ closer => [closer.token]
  | overChildren children => children.tokens
  | firstBranch others | nextBranch _ others => others.tokens
  | firstConjunct others | nextConjunct _ others => others.tokens
  | group _ closer => [closer.token]
  | alone | underNode _ | otherBranches _ | laterBranches _ _ | otherConjuncts _
  | laterConjuncts _ _ | unmodified | negated _ | optional _ | related _ => []

theorem fill_tokens (frame : Frame outer inner) (part : inner.Phrase) :
    Rule.tokens (frame.fill part) = frame.before ++ (Rule.tokens part ++ frame.behind) := by
  cases frame <;>
    simp [fill, before, behind, Rule.tokens, NodePhrase.tokens, SubNodePhrase.tokens,
      DisjunctionPhrase.tokens, DisjunctsPhrase.tokens, ConjunctionPhrase.tokens,
      ConjunctsPhrase.tokens, ConstraintPhrase.tokens, PlainPhrase.tokens]

theorem fill_nesting_le (frame : Frame outer inner) {part other : inner.Phrase}
    (less : Rule.nesting other ≤ Rule.nesting part) :
    Rule.nesting (frame.fill other) ≤ Rule.nesting (frame.fill part) := by
  cases frame <;>
    simp only [fill, Rule.nesting, NodePhrase.nesting, SubNodePhrase.nesting,
      DisjunctionPhrase.nesting, DisjunctsPhrase.nesting, ConjunctionPhrase.nesting,
      ConjunctsPhrase.nesting, ConstraintPhrase.nesting, PlainPhrase.nesting] at less ⊢ <;>
    omega

def relation {outer inner : Rule} (resolver : Resolver) (own : Relation) :
    Frame outer inner → Option Relation
  | related operation => operation.denote resolver
  | _ => some own

def assemble {outer inner : Rule} (resolver : Resolver) (own : Relation) :
    Frame outer inner → inner.Value → Option outer.Value
  | enclosed _ _ => some
  | alone => some
  | overChildren children => fun top => (children.denote resolver).map (beneath top)
  | underNode node => fun child => (node.denote resolver own).map (beneath · child)
  | firstBranch others => fun first => (others.denote resolver).map (gathered false first)
  | otherBranches first => fun others => (first.denote resolver).map (gathered false · others)
  | nextBranch _ others => fun next => (others.denote resolver).map (next :: ·)
  | laterBranches _ next => fun others => (next.denote resolver).map (· :: others)
  | firstConjunct others => fun first => (others.denote resolver).map (gathered true first)
  | otherConjuncts first => fun others => (first.denote resolver).map (gathered true · others)
  | nextConjunct _ others => fun next => (others.denote resolver).map (next :: ·)
  | laterConjuncts _ next => fun others => (next.denote resolver).map (· :: others)
  | unmodified => some
  | negated _ => fun node => some (withNegation node)
  | optional _ => fun node => some (withOption node)
  | group _ _ => some
  | related _ => fun target => some target.toNode

theorem fill_denote (resolver : Resolver) (own : Relation) (frame : Frame outer inner)
    (part : inner.Phrase) :
    Rule.denote resolver own (frame.fill part) = (frame.relation resolver own).bind fun relation =>
      (Rule.denote resolver relation part).bind (frame.assemble resolver own) := by
  cases frame with
  | enclosed opener closer =>
      simp only [fill, relation, assemble, Rule.denote, NodePhrase.denote, Option.bind_some,
        Option.bind_fun_some]
  | alone =>
      simp only [fill, relation, assemble, Rule.denote, SubNodePhrase.denote, Option.bind_some,
        Option.bind_fun_some]
  | overChildren children =>
      simp only [fill, relation, assemble, Rule.denote, SubNodePhrase.denote, Option.bind_some]
      cases NodePhrase.denote resolver own part <;> cases children.denote resolver <;> rfl
  | underNode node =>
      simp only [fill, relation, assemble, Rule.denote, SubNodePhrase.denote, Option.bind_some]
      cases DisjunctionPhrase.denote resolver part <;> cases node.denote resolver own <;> rfl
  | firstBranch others =>
      simp only [fill, relation, assemble, Rule.denote, DisjunctionPhrase.denote, Option.bind_some]
      cases ConjunctionPhrase.denote resolver part <;> cases others.denote resolver <;> rfl
  | otherBranches first =>
      simp only [fill, relation, assemble, Rule.denote, DisjunctionPhrase.denote, Option.bind_some]
      cases DisjunctsPhrase.denote resolver part <;> cases first.denote resolver <;> rfl
  | nextBranch bar others =>
      simp only [fill, relation, assemble, Rule.denote, DisjunctsPhrase.denote, Option.bind_some]
      cases ConjunctionPhrase.denote resolver part <;> cases others.denote resolver <;> rfl
  | laterBranches bar next =>
      simp only [fill, relation, assemble, Rule.denote, DisjunctsPhrase.denote, Option.bind_some]
      cases DisjunctsPhrase.denote resolver part <;> cases next.denote resolver <;> rfl
  | firstConjunct others =>
      simp only [fill, relation, assemble, Rule.denote, ConjunctionPhrase.denote, Option.bind_some]
      cases ConstraintPhrase.denote resolver part <;> cases others.denote resolver <;> rfl
  | otherConjuncts first =>
      simp only [fill, relation, assemble, Rule.denote, ConjunctionPhrase.denote, Option.bind_some]
      cases ConjunctsPhrase.denote resolver part <;> cases first.denote resolver <;> rfl
  | nextConjunct joint others =>
      simp only [fill, relation, assemble, Rule.denote, ConjunctsPhrase.denote, Option.bind_some]
      cases ConstraintPhrase.denote resolver part <;> cases others.denote resolver <;> rfl
  | laterConjuncts joint next =>
      simp only [fill, relation, assemble, Rule.denote, ConjunctsPhrase.denote, Option.bind_some]
      cases ConjunctsPhrase.denote resolver part <;> cases next.denote resolver <;> rfl
  | unmodified =>
      simp only [fill, relation, assemble, Rule.denote, ConstraintPhrase.denote, Option.bind_some,
        Option.bind_fun_some]
  | negated bang =>
      simp only [fill, relation, assemble, Rule.denote, ConstraintPhrase.denote, Option.bind_some,
        Option.map_eq_bind, Function.comp_def]
  | optional question =>
      simp only [fill, relation, assemble, Rule.denote, ConstraintPhrase.denote, Option.bind_some,
        Option.map_eq_bind, Function.comp_def]
  | group opener closer =>
      simp only [fill, relation, assemble, Rule.denote, PlainPhrase.denote, Option.bind_some,
        Option.bind_fun_some]
  | related operation =>
      simp only [fill, relation, assemble, Rule.denote, PlainPhrase.denote, Option.map_eq_bind,
        Function.comp_def]

end Frame

-- Frames around one another, the outermost first.
inductive Context : Rule → Rule → Type where
  | hole {rule : Rule} : Context rule rule
  | inside {outer middle inner : Rule} (frame : Frame outer middle)
      (context : Context middle inner) : Context outer inner

namespace Context

variable {outer inner : Rule}

def fill {outer inner : Rule} : Context outer inner → inner.Phrase → outer.Phrase
  | hole, part => part
  | inside frame context, part => frame.fill (context.fill part)

def before {outer inner : Rule} : Context outer inner → List Token
  | hole => []
  | inside frame context => frame.before ++ context.before

def behind {outer inner : Rule} : Context outer inner → List Token
  | hole => []
  | inside frame context => context.behind ++ frame.behind

def relation {outer inner : Rule} (resolver : Resolver) (own : Relation) :
    Context outer inner → Option Relation
  | hole => some own
  | inside frame context => (frame.relation resolver own).bind (context.relation resolver ·)

def assemble {outer inner : Rule} (resolver : Resolver) (own : Relation) :
    Context outer inner → inner.Value → Option outer.Value
  | hole => some
  | inside frame context => fun value => (frame.relation resolver own).bind fun relation =>
      (context.assemble resolver relation value).bind (frame.assemble resolver own)

theorem fill_tokens (context : Context outer inner) (part : inner.Phrase) :
    Rule.tokens (context.fill part) = context.before ++ (Rule.tokens part ++ context.behind) := by
  induction context with
  | hole => simp [fill, before, behind]
  | inside frame context ih => simp [fill, before, behind, Frame.fill_tokens, ih]

theorem fill_nesting_le (context : Context outer inner) {part other : inner.Phrase}
    (less : Rule.nesting other ≤ Rule.nesting part) :
    Rule.nesting (context.fill other) ≤ Rule.nesting (context.fill part) := by
  induction context with
  | hole => exact less
  | inside frame context ih => exact frame.fill_nesting_le (ih less)

theorem fill_denote (resolver : Resolver) (own : Relation) (context : Context outer inner)
    (part : inner.Phrase) :
    Rule.denote resolver own (context.fill part) =
      (context.relation resolver own).bind fun relation =>
        (Rule.denote resolver relation part).bind (context.assemble resolver own) := by
  induction context generalizing own with
  | hole => simp [fill, relation, assemble]
  | inside frame context ih =>
      rw [fill, Frame.fill_denote, relation, assemble]
      cases frame.relation resolver own with
      | none => rfl
      | some deeper => simp only [Option.bind_some, ih, Option.bind_assoc]

def pattern {rule : Rule} (context : Context .subNode rule) (terminator : Leaf [.semicolon])
    (part : rule.Phrase) : PatternPhrase := ⟨context.fill part, terminator⟩

section Pattern

variable {resolver : Resolver} {rule : Rule} {context : Context .subNode rule}
  {terminator : Leaf [.semicolon]} {rest : List Token} {part other : rule.Phrase} {parsed : Parsed}

theorem pattern_tokens (context : Context .subNode rule) (terminator : Leaf [.semicolon])
    (rest : List Token) (part : rule.Phrase) :
    (context.pattern terminator part).tokens ++ rest =
      context.before ++ Rule.tokens part ++ context.behind ++ terminator.token :: rest := by
  have filled := context.fill_tokens part
  change SubNodePhrase.tokens (context.fill part) = _ at filled
  simp [pattern, PatternPhrase.tokens, filled]

theorem pattern_denote {top : Described} :
    (context.pattern terminator part).denote resolver = some top ↔
      ∃ relation value, context.relation resolver Relation.root = some relation ∧
        Rule.denote resolver relation part = some value ∧
          context.assemble resolver Relation.root value = some top := by
  have filled := context.fill_denote resolver Relation.root part
  change (context.fill part).denote resolver Relation.root = _ at filled
  simp [pattern, PatternPhrase.denote, filled, Option.bind_eq_some_iff]

theorem accepted_part (accepted : parseTokens resolver (context.before ++ Rule.tokens part ++
      context.behind ++ terminator.token :: rest) = .ok parsed) :
    Rule.nesting (context.fill part) ≤ maxNesting ∧
      ∃ relation value, context.relation resolver Relation.root = some relation ∧
        Rule.denote resolver relation part = some value ∧
          context.assemble resolver Relation.root value = some parsed.top := by
  rw [← pattern_tokens] at accepted
  obtain ⟨fits, names, found⟩ := parse_tokens_accepts (parse_tokens_upcoming accepted) accepted
  exact ⟨fits, pattern_denote.1 (outcome_of_eq_some.1 found).1⟩

-- Another part in its place is accepted as well if it denotes something in this context,
-- its names are in order, and it does not nest the pattern too deep.
theorem other_accepted (accepted : parseTokens resolver (context.before ++ Rule.tokens part ++
      context.behind ++ terminator.token :: rest) = .ok parsed)
    (fits : Rule.nesting (context.fill other) ≤ maxNesting) {relation : Relation}
    {value : rule.Value} {top : Described} {names : Scope}
    (related : context.relation resolver Relation.root = some relation)
    (denoted : Rule.denote resolver relation other = some value)
    (assembled : context.assemble resolver Relation.root value = some top)
    (behind : top.toNode.scopeBehind true false Scope.empty = some names) :
    parseTokens resolver (context.before ++ Rule.tokens other ++ context.behind ++
      terminator.token :: rest) = .ok ⟨top, names.names⟩ := by
  rw [← pattern_tokens] at accepted ⊢
  have found : (context.pattern terminator other).outcome ⟨resolver, true⟩ = some (top, names) :=
    outcome_of_eq_some.2 ⟨pattern_denote.2 ⟨relation, value, related, denoted, assembled⟩, behind⟩
  cases parse_tokens_of_outcome (parse_tokens_upcoming accepted) found with
  | inl parses => exact parses
  | inr tooDeep => exact absurd fits tooDeep.1

end Pattern

end Context

end TreeQuery.Grammar

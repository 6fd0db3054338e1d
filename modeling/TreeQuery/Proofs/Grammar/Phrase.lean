import TreeQuery.Grammar.Level

/- Phrases: how the tokens of a pattern group by the grammar. Each constructor is
   one way to read a rule, with the tokens that it takes:

     Pattern     := SubNode ';'
     Node        := '(' SubNode ')' | Description
     SubNode     := Node [Disjunction]
     Description := ['!'] ['@'] Bare
     Bare        := (IDENTIFIER | REGEX | BLANK) {'#' NUMBER '=' IDENTIFIER} ['=' IDENTIFIER]
                  | '~' IDENTIFIER ['=' IDENTIFIER]
                  | '=' IDENTIFIER
     Disjunction := Conjunction {'|' Conjunction}
     Conjunction := Constraint {['&'] Constraint}
     Constraint  := Plain | '!' Plain | '?' Plain
     Plain       := '[' Disjunction ']' | Operation Node
     Operation   := RELATION [NUMBER] | REL_W_STR_ARG Argument
     Argument    := '(' ['!'] ['@'] (IDENTIFIER | REGEX | BLANK) ')' | ['!'] REGEX

   A phrase denotes a tree, unless one of its words means nothing: a regex that is
   none, an operator that does not take its argument, a group out of range. -/
set_option autoImplicit false

namespace TreeQuery.Grammar

structure Leaf (kinds : List TokenKind) where
  token : Token
  kind_mem : token.kind ∈ kinds

theorem Leaf.kind_eq {kind : TokenKind} (leaf : Leaf [kind]) : leaf.token.kind = kind :=
  List.mem_singleton.1 leaf.kind_mem

def Leaf.word (kind : TokenKind) (text : String) : Leaf [kind] :=
  ⟨⟨kind, text.toList, .nowhere⟩, List.mem_singleton_self kind⟩

def optionalTokens {kinds : List TokenKind} : Option (Leaf kinds) → List Token
  | none => []
  | some leaf => [leaf.token]

def optionalMark {kinds : List TokenKind} (mark : Char) : Option (Leaf kinds) → Text
  | none => []
  | some _ => [mark]

inductive ArgumentPhrase where
  | enclosed (opener : Leaf [.leftParen]) (negation : Option (Leaf [.bang]))
      (category : Option (Leaf [.atSign])) (label : Leaf labelKinds) (closer : Leaf [.rightParen])
  | unenclosed (negation : Option (Leaf [.bang])) (regex : Leaf [.regex])

inductive OperationPhrase where
  | plain (operator : Leaf [.operator]) (number : Option (Leaf [.number]))
  | chain (operator : Leaf [.chainOperator]) (argument : ArgumentPhrase)

structure GroupPhrase where
  hash : Leaf [.hash]
  number : Leaf [.number]
  equals : Leaf [.equals]
  name : Leaf [.identifier]

structure CapturePhrase where
  equals : Leaf [.equals]
  name : Leaf [.identifier]

inductive BarePhrase where
  | labelled (label : Leaf labelKinds) (groups : List GroupPhrase) (capture : Option CapturePhrase)
  | linked (tilde : Leaf [.tilde]) (target : Leaf [.identifier]) (capture : Option CapturePhrase)
  | backreferenced (equals : Leaf [.equals]) (target : Leaf [.identifier])

structure DescriptionPhrase where
  negation : Option (Leaf [.bang])
  category : Option (Leaf [.atSign])
  bare : BarePhrase

mutual

inductive NodePhrase where
  | enclosed (opener : Leaf [.leftParen]) (inner : SubNodePhrase) (closer : Leaf [.rightParen])
  | label (description : DescriptionPhrase)

inductive SubNodePhrase where
  | alone (node : NodePhrase)
  | above (node : NodePhrase) (children : DisjunctionPhrase)

inductive DisjunctionPhrase where
  | of (first : ConjunctionPhrase) (others : DisjunctsPhrase)

inductive DisjunctsPhrase where
  | nil
  | cons (bar : Leaf [.pipe]) (next : ConjunctionPhrase) (others : DisjunctsPhrase)

inductive ConjunctionPhrase where
  | of (first : ConstraintPhrase) (others : ConjunctsPhrase)

inductive ConjunctsPhrase where
  | nil
  | cons (joint : Option (Leaf [.ampersand])) (next : ConstraintPhrase) (others : ConjunctsPhrase)

inductive ConstraintPhrase where
  | plain (constraint : PlainPhrase)
  | negated (bang : Leaf [.bang]) (constraint : PlainPhrase)
  | optional (question : Leaf [.question]) (constraint : PlainPhrase)

inductive PlainPhrase where
  | group (opener : Leaf [.leftBracket]) (members : DisjunctionPhrase)
      (closer : Leaf [.rightBracket])
  | related (operation : OperationPhrase) (node : NodePhrase)

end

structure PatternPhrase where
  top : SubNodePhrase
  terminator : Leaf [.semicolon]

def NodePhrase.plain (label : String) : NodePhrase :=
  .label ⟨none, none, .labelled ⟨⟨.identifier, label.toList, .nowhere⟩, List.mem_cons_self⟩ [] none⟩

def NodePhrase.captured (label name : String) : NodePhrase :=
  .label ⟨none, none, .labelled ⟨⟨.identifier, label.toList, .nowhere⟩, List.mem_cons_self⟩ []
    (some ⟨.word .equals "=", .word .identifier name⟩)⟩

def PlainPhrase.child (label : String) : PlainPhrase :=
  .related (.plain (.word .operator "<") none) (.plain label)

def ConstraintPhrase.captured (label name : String) : ConstraintPhrase :=
  .plain (.related (.plain (.word .operator "<") none) (.captured label name))

def ArgumentPhrase.tokens : ArgumentPhrase → List Token
  | enclosed opener negation category label closer =>
      opener.token :: (optionalTokens negation ++
        (optionalTokens category ++ [label.token, closer.token]))
  | unenclosed negation regex => optionalTokens negation ++ [regex.token]

def OperationPhrase.tokens : OperationPhrase → List Token
  | plain operator number => operator.token :: optionalTokens number
  | chain operator argument => operator.token :: argument.tokens

def GroupPhrase.tokens (group : GroupPhrase) : List Token :=
  [group.hash.token, group.number.token, group.equals.token, group.name.token]

def captureTokens : Option CapturePhrase → List Token
  | none => []
  | some capture => [capture.equals.token, capture.name.token]

def BarePhrase.tokens : BarePhrase → List Token
  | labelled label groups capture =>
      label.token :: (groups.flatMap GroupPhrase.tokens ++ captureTokens capture)
  | linked tilde target capture => tilde.token :: target.token :: captureTokens capture
  | backreferenced equals target => [equals.token, target.token]

def DescriptionPhrase.tokens (description : DescriptionPhrase) : List Token :=
  optionalTokens description.negation ++
    (optionalTokens description.category ++ description.bare.tokens)

mutual

def NodePhrase.tokens : NodePhrase → List Token
  | .enclosed opener inner closer => opener.token :: (inner.tokens ++ [closer.token])
  | .label description => description.tokens

def SubNodePhrase.tokens : SubNodePhrase → List Token
  | .alone node => node.tokens
  | .above node children => node.tokens ++ children.tokens

def DisjunctionPhrase.tokens : DisjunctionPhrase → List Token
  | .of first others => first.tokens ++ others.tokens

def DisjunctsPhrase.tokens : DisjunctsPhrase → List Token
  | .nil => []
  | .cons bar next others => bar.token :: (next.tokens ++ others.tokens)

def ConjunctionPhrase.tokens : ConjunctionPhrase → List Token
  | .of first others => first.tokens ++ others.tokens

def ConjunctsPhrase.tokens : ConjunctsPhrase → List Token
  | .nil => []
  | .cons joint next others => optionalTokens joint ++ (next.tokens ++ others.tokens)

def ConstraintPhrase.tokens : ConstraintPhrase → List Token
  | .plain constraint => constraint.tokens
  | .negated bang constraint => bang.token :: constraint.tokens
  | .optional question constraint => question.token :: constraint.tokens

def PlainPhrase.tokens : PlainPhrase → List Token
  | .group opener members closer => opener.token :: (members.tokens ++ [closer.token])
  | .related operation node => operation.tokens ++ node.tokens

end

def PatternPhrase.tokens (pattern : PatternPhrase) : List Token :=
  pattern.top.tokens ++ [pattern.terminator.token]

-- How deep relations, parentheses and brackets stand in one another.

mutual

def NodePhrase.nesting : NodePhrase → Nat
  | .enclosed _ inner _ => inner.nesting + 1
  | .label _ => 0

def SubNodePhrase.nesting : SubNodePhrase → Nat
  | .alone node => node.nesting
  | .above node children => max node.nesting children.nesting

def DisjunctionPhrase.nesting : DisjunctionPhrase → Nat
  | .of first others => max first.nesting others.nesting

def DisjunctsPhrase.nesting : DisjunctsPhrase → Nat
  | .nil => 0
  | .cons _ next others => max next.nesting others.nesting

def ConjunctionPhrase.nesting : ConjunctionPhrase → Nat
  | .of first others => max first.nesting others.nesting

def ConjunctsPhrase.nesting : ConjunctsPhrase → Nat
  | .nil => 0
  | .cons _ next others => max next.nesting others.nesting

def ConstraintPhrase.nesting : ConstraintPhrase → Nat
  | .plain constraint => constraint.nesting
  | .negated _ constraint => constraint.nesting
  | .optional _ constraint => constraint.nesting

def PlainPhrase.nesting : PlainPhrase → Nat
  | .group _ members _ => members.nesting + 1
  | .related _ node => node.nesting + 1

end

def ArgumentPhrase.text : ArgumentPhrase → Text
  | enclosed _ negation category label _ =>
      optionalMark '!' negation ++ optionalMark '@' category ++ label.token.text
  | unenclosed negation regex => optionalMark '!' negation ++ regex.token.text

def OperationPhrase.operation : OperationPhrase → Operation
  | plain operator none => ⟨operator.token.text, none, operator.token.position⟩
  | plain operator (some number) =>
      ⟨(indexed operator.token.text number.token.text).1,
        some (indexed operator.token.text number.token.text).2, operator.token.position⟩
  | chain operator argument => ⟨operator.token.text, some argument.text, operator.token.position⟩

def OperationPhrase.denote (resolver : Resolver) (phrase : OperationPhrase) : Option Relation :=
  (resolver.resolve phrase.operation.symbol phrase.operation.argument).toOption

def GroupPhrase.denote (descriptor : Descriptor) (group : GroupPhrase) : Option GroupCapture :=
  (groupNumber descriptor group.number.token.text).toOption.map (⟨·, group.name.token.text⟩)

def captureText (capture : Option CapturePhrase) : Option Text :=
  capture.map (·.name.token.text)

def BarePhrase.denote (checker : Regex.Checker) (relation : Relation) :
    BarePhrase → Option Description
  | labelled label groups capture => do
      let descriptor ← (descriptorOf checker label.token).toOption
      let groups ← groups.mapM (GroupPhrase.denote descriptor)
      return { Description.plain relation descriptor with capture := captureText capture, groups }
  | linked _ target capture =>
      some { Description.plain relation .unspecified with
        link := some target.token.text, capture := captureText capture }
  | backreferenced _ target =>
      some { Description.plain relation .unspecified with
        backreference := some target.token.text }

def DescriptionPhrase.denote (checker : Regex.Checker) (relation : Relation)
    (phrase : DescriptionPhrase) : Option Description :=
  (phrase.bare.denote checker relation).map fun bare =>
    { bare with
      descriptorNegated := phrase.negation.isSome, categoryMatch := phrase.category.isSome }

-- One member stands for itself; several are coordinated in the order in which
-- they are written.
def gathered (conjunctive : Bool) (first : Node) : List Node → Node
  | [] => first
  | second :: others => .coordination ⟨conjunctive, false, false⟩ (first :: second :: others)

def beneath (top : Described) (child : Node) : Described :=
  match top.child with
  | none => ⟨top.description, some child⟩
  | some earlier =>
      ⟨top.description, some (.coordination ⟨true, false, false⟩ [earlier, child])⟩

-- A modifier marks what its constraint denotes as a whole: the description, or the
-- coordination that a group stands for.

def withNegation : Node → Node
  | .described description child => .described { description with negated := true } child
  | .coordination joined members => .coordination { joined with negated := true } members

def withOption : Node → Node
  | .described description child => .described { description with optional := true } child
  | .coordination joined members => .coordination { joined with optional := true } members

mutual

def NodePhrase.denote (resolver : Resolver) (relation : Relation) : NodePhrase → Option Described
  | .enclosed _ inner _ => inner.denote resolver relation
  | .label description => (description.denote resolver.checkRegex relation).map (⟨·, none⟩)

def SubNodePhrase.denote (resolver : Resolver) (relation : Relation) :
    SubNodePhrase → Option Described
  | .alone node => node.denote resolver relation
  | .above node children => do
      let top ← node.denote resolver relation
      let child ← children.denote resolver
      return beneath top child

def DisjunctionPhrase.denote (resolver : Resolver) : DisjunctionPhrase → Option Node
  | .of first others => do
      let first ← first.denote resolver
      let others ← others.denote resolver
      return gathered false first others

def DisjunctsPhrase.denote (resolver : Resolver) : DisjunctsPhrase → Option (List Node)
  | .nil => some []
  | .cons _ next others => do
      let next ← next.denote resolver
      let others ← others.denote resolver
      return next :: others

def ConjunctionPhrase.denote (resolver : Resolver) : ConjunctionPhrase → Option Node
  | .of first others => do
      let first ← first.denote resolver
      let others ← others.denote resolver
      return gathered true first others

def ConjunctsPhrase.denote (resolver : Resolver) : ConjunctsPhrase → Option (List Node)
  | .nil => some []
  | .cons _ next others => do
      let next ← next.denote resolver
      let others ← others.denote resolver
      return next :: others

def ConstraintPhrase.denote (resolver : Resolver) : ConstraintPhrase → Option Node
  | .plain constraint => constraint.denote resolver
  | .negated _ constraint => (constraint.denote resolver).map withNegation
  | .optional _ constraint => (constraint.denote resolver).map withOption

def PlainPhrase.denote (resolver : Resolver) : PlainPhrase → Option Node
  | .group _ members _ => members.denote resolver
  | .related operation node =>
      (operation.denote resolver).bind fun relation =>
        (node.denote resolver relation).map Described.toNode

end

def PatternPhrase.denote (resolver : Resolver) (pattern : PatternPhrase) : Option Described :=
  pattern.top.denote resolver Relation.root

theorem to_option_eq_some {ε α : Type} {result : Except ε α} {value : α} :
    result.toOption = some value ↔ result = .ok value := by
  cases result <;> simp [Except.toOption]

theorem gathered_eq_coordinate (conjunctive : Bool) (first : Node) (others : List Node) :
    gathered conjunctive first others = Node.coordinate conjunctive (first :: others) := by
  cases others <;> rfl

theorem beneath_eq_attach (top : Described) (child : Node) : beneath top child = top.attach child := by
  obtain ⟨description, earlier⟩ := top
  cases earlier <;> rfl

theorem with_negation_eq_negate (node : Node) : withNegation node = node.negate := by
  cases node <;> rfl

theorem with_option_eq_make_optional (node : Node) : withOption node = node.makeOptional := by
  cases node <;> rfl

section Parts

variable {resolver : Resolver}

theorem SubNodePhrase.denote_above {relation : Relation} {node : NodePhrase}
    {children : DisjunctionPhrase} {top : Described} :
    (SubNodePhrase.above node children).denote resolver relation = some top ↔
      ∃ inner child, node.denote resolver relation = some inner ∧
        children.denote resolver = some child ∧ beneath inner child = top := by
  simp [SubNodePhrase.denote, Option.bind_eq_some_iff]

theorem DisjunctionPhrase.denote_of {first : ConjunctionPhrase} {others : DisjunctsPhrase}
    {node : Node} : (DisjunctionPhrase.of first others).denote resolver = some node ↔
      ∃ head tail, first.denote resolver = some head ∧ others.denote resolver = some tail ∧
        gathered false head tail = node := by
  simp [DisjunctionPhrase.denote, Option.bind_eq_some_iff]

theorem DisjunctsPhrase.denote_cons {bar : Leaf [.pipe]} {next : ConjunctionPhrase}
    {others : DisjunctsPhrase} {nodes : List Node} :
    (DisjunctsPhrase.cons bar next others).denote resolver = some nodes ↔
      ∃ head tail, next.denote resolver = some head ∧ others.denote resolver = some tail ∧
        head :: tail = nodes := by
  simp [DisjunctsPhrase.denote, Option.bind_eq_some_iff]

theorem ConjunctionPhrase.denote_of {first : ConstraintPhrase} {others : ConjunctsPhrase}
    {node : Node} : (ConjunctionPhrase.of first others).denote resolver = some node ↔
      ∃ head tail, first.denote resolver = some head ∧ others.denote resolver = some tail ∧
        gathered true head tail = node := by
  simp [ConjunctionPhrase.denote, Option.bind_eq_some_iff]

theorem ConjunctsPhrase.denote_cons {joint : Option (Leaf [.ampersand])} {next : ConstraintPhrase}
    {others : ConjunctsPhrase} {nodes : List Node} :
    (ConjunctsPhrase.cons joint next others).denote resolver = some nodes ↔
      ∃ head tail, next.denote resolver = some head ∧ others.denote resolver = some tail ∧
        head :: tail = nodes := by
  simp [ConjunctsPhrase.denote, Option.bind_eq_some_iff]

theorem ConstraintPhrase.denote_negated_eq {bang : Leaf [.bang]} {constraint : PlainPhrase} :
    (ConstraintPhrase.negated bang constraint).denote resolver =
      (constraint.denote resolver).map Node.negate := by
  rw [ConstraintPhrase.denote, funext with_negation_eq_negate]

theorem ConstraintPhrase.denote_optional_eq {question : Leaf [.question]}
    {constraint : PlainPhrase} :
    (ConstraintPhrase.optional question constraint).denote resolver =
      (constraint.denote resolver).map Node.makeOptional := by
  rw [ConstraintPhrase.denote, funext with_option_eq_make_optional]

theorem ConstraintPhrase.denote_negated {bang : Leaf [.bang]} {constraint : PlainPhrase}
    {node : Node} : (ConstraintPhrase.negated bang constraint).denote resolver = some node ↔
      ∃ positive, constraint.denote resolver = some positive ∧ positive.negate = node := by
  rw [denote_negated_eq, Option.map_eq_some_iff]

theorem ConstraintPhrase.denote_optional {question : Leaf [.question]}
    {constraint : PlainPhrase} {node : Node} :
    (ConstraintPhrase.optional question constraint).denote resolver = some node ↔
      ∃ required, constraint.denote resolver = some required ∧ required.makeOptional = node := by
  rw [denote_optional_eq, Option.map_eq_some_iff]

theorem PlainPhrase.denote_related {operation : OperationPhrase} {target : NodePhrase}
    {node : Node} : (PlainPhrase.related operation target).denote resolver = some node ↔
      ∃ relation top, operation.denote resolver = some relation ∧
        target.denote resolver relation = some top ∧ top.toNode = node := by
  simp [PlainPhrase.denote, Option.bind_eq_some_iff]

end Parts

-- A description hangs from the given relation. Alone it carries no modifier: those
-- belong to the constraint that leads to it.

theorem BarePhrase.denote_plain {checker : Regex.Checker} {relation : Relation}
    {phrase : BarePhrase} {description : Description}
    (denoted : phrase.denote checker relation = some description) :
    description.relation = relation ∧ description.negated = false ∧ description.optional = false := by
  cases phrase with
  | labelled label groups capture =>
      simp only [denote, Option.bind_eq_bind, Option.pure_def, Option.bind_eq_some_iff,
        Option.some.injEq] at denoted
      obtain ⟨descriptor, -, groups, -, rfl⟩ := denoted
      exact ⟨rfl, rfl, rfl⟩
  | linked tilde target capture =>
      cases denoted
      exact ⟨rfl, rfl, rfl⟩
  | backreferenced equals target =>
      cases denoted
      exact ⟨rfl, rfl, rfl⟩

theorem DescriptionPhrase.denote_plain {checker : Regex.Checker} {relation : Relation}
    {phrase : DescriptionPhrase} {description : Description}
    (denoted : phrase.denote checker relation = some description) :
    description.relation = relation ∧ description.negated = false ∧ description.optional = false := by
  simp only [denote, Option.map_eq_some_iff] at denoted
  obtain ⟨bare, found, rfl⟩ := denoted
  have plain := BarePhrase.denote_plain found
  exact plain

mutual

theorem NodePhrase.denote_plain {resolver : Resolver} {relation : Relation} {top : Described} :
    (phrase : NodePhrase) → phrase.denote resolver relation = some top →
      top.description.relation = relation ∧ top.description.negated = false ∧
        top.description.optional = false
  | .enclosed _ inner _, denoted =>
      SubNodePhrase.denote_plain inner (by simpa only [NodePhrase.denote] using denoted)
  | .label description, denoted => by
      simp only [NodePhrase.denote, Option.map_eq_some_iff] at denoted
      obtain ⟨label, found, rfl⟩ := denoted
      exact DescriptionPhrase.denote_plain found

theorem SubNodePhrase.denote_plain {resolver : Resolver} {relation : Relation} {top : Described} :
    (phrase : SubNodePhrase) → phrase.denote resolver relation = some top →
      top.description.relation = relation ∧ top.description.negated = false ∧
        top.description.optional = false
  | .alone node, denoted =>
      NodePhrase.denote_plain node (by simpa only [SubNodePhrase.denote] using denoted)
  | .above node children, denoted => by
      obtain ⟨inner, child, found, -, rfl⟩ := SubNodePhrase.denote_above.1 denoted
      have plain := NodePhrase.denote_plain node found
      unfold beneath
      split <;> exact plain

end

end TreeQuery.Grammar

import TreeQuery.Proofs.Grammar.Derivation
import TreeQuery.Proofs.Pattern.Rearranged
import Mathlib.Data.List.SplitBy

/- Every description of a tree is written in a stretch of the pattern of its own: the
   first one up to the first operator, each other one from its operator up to the next.
   The stretches stand in the order of the descriptions. -/
set_option autoImplicit false

namespace TreeQuery

def Description.unmodified (description : Description) : Description :=
  { description with negated := false, optional := false }

theorem Description.unmodified_eq {description : Description}
    (positive : description.negated = false) (required : description.optional = false) :
    description.unmodified = description := by
  obtain ⟨_, _, _⟩ := description
  cases positive
  cases required
  rfl

def Token.isOperator (token : Token) : Bool :=
  [TokenKind.operator, .chainOperator].contains token.kind

def stretches (tokens : List Token) : List (List Token) :=
  tokens.splitBy fun _ next => !next.isOperator

def OperatorFree (tokens : List Token) : Prop := ∀ token ∈ tokens, token.isOperator = false

def Stretch (tokens : List Token) : Prop :=
  ∃ operator rest, tokens = operator :: rest ∧ operator.isOperator = true ∧ OperatorFree rest

section Stretches

variable {token : Token} {tokens others : List Token}

@[simp] theorem operator_free_cons :
    OperatorFree (token :: tokens) ↔ token.isOperator = false ∧ OperatorFree tokens :=
  List.forall_mem_cons

@[simp] theorem operator_free_append :
    OperatorFree (tokens ++ others) ↔ OperatorFree tokens ∧ OperatorFree others :=
  List.forall_mem_append

theorem OperatorFree.chained (free : OperatorFree tokens) (token : Token) :
    (token :: tokens).IsChain fun _ next => (!next.isOperator) = true := by
  induction tokens generalizing token with
  | nil => exact .singleton token
  | cons next tokens ih =>
      obtain ⟨plain, later⟩ := operator_free_cons.1 free
      exact .cons_cons (by rw [plain]; rfl) (ih later next)

theorem stretches_flatten {pieces : List (List Token)} (each : ∀ piece ∈ pieces, Stretch piece)
    (token : Token) (free : OperatorFree tokens) :
    stretches ((token :: tokens) ++ pieces.flatten) = (token :: tokens) :: pieces := by
  induction pieces generalizing token tokens with
  | nil =>
      rw [List.flatten_nil, List.append_nil]
      exact List.splitBy_of_isChain (List.cons_ne_nil _ _) (free.chained token)
  | cons piece pieces ih =>
      obtain ⟨here, later⟩ := List.forall_mem_cons.1 each
      obtain ⟨operator, rest, rfl, leads, freeToo⟩ := here
      have cut : ∀ last ∈ (token :: tokens).getLast?, (!operator.isOperator) = false := by
        intro last _
        rw [leads]
        rfl
      have split : stretches ((token :: tokens) ++ operator :: (rest ++ pieces.flatten)) =
          stretches (token :: tokens) ++ stretches (operator :: (rest ++ pieces.flatten)) :=
        List.splitBy_append_cons _ cut
      have front : stretches (token :: tokens) = [token :: tokens] :=
        List.splitBy_of_isChain (List.cons_ne_nil _ _) (free.chained token)
      have behind := ih later operator freeToo
      rw [List.cons_append] at behind
      change stretches ((token :: tokens) ++ operator :: (rest ++ pieces.flatten)) = _
      rw [split, front, behind]
      rfl

theorem stretches_operators {pieces : List (List Token)} (each : ∀ piece ∈ pieces, Stretch piece) :
    pieces.map List.head? = (pieces.flatten.filter Token.isOperator).map some := by
  induction pieces with
  | nil => rfl
  | cons piece pieces ih =>
      obtain ⟨here, later⟩ := List.forall_mem_cons.1 each
      obtain ⟨operator, rest, rfl, leads, free⟩ := here
      have none : rest.filter Token.isOperator = [] := by
        apply List.filter_eq_nil_iff.2
        intro token inside
        rw [free token inside]
        exact Bool.false_ne_true
      rw [List.map_cons, ih later, List.flatten_cons, List.cons_append,
        List.filter_cons_of_pos leads, List.filter_append, none]
      rfl

end Stretches

namespace Grammar

def jointKinds : List TokenKind :=
  [.rightParen, .leftBracket, .rightBracket, .pipe, .ampersand, .bang, .question, .semicolon]

-- In the tokens the description is written out, once: its label with everything that
-- belongs to the label, in parentheses or not. The relation comes from elsewhere.
def Writes (checker : Regex.Checker) (relation : Relation) (tokens : List Token)
    (description : Description) : Prop :=
  description.relation = relation ∧
    ∃ (openers : List Token) (label : DescriptionPhrase) (joints : List Token),
      tokens = openers ++ (label.tokens ++ joints) ∧
        (∀ opener ∈ openers, opener.kind = .leftParen) ∧
          (∀ joint ∈ joints, joint.kind ∈ jointKinds) ∧
            label.denote checker relation = some description.unmodified

def WritesRelated (resolver : Resolver) (tokens : List Token) (description : Description) : Prop :=
  ∃ (operation : OperationPhrase) (relation : Relation) (rest : List Token),
    tokens = operation.tokens ++ rest ∧ operation.denote resolver = some relation ∧
      Writes resolver.checkRegex relation rest description

-- Tokens that write descriptions out one after the other, each behind an operator.
inductive Trail (resolver : Resolver) : List Token → List Description → Prop where
  | nil : Trail resolver [] []
  | joint {joint : Token} {tokens : List Token} {descriptions : List Description}
      (between : joint.kind ∈ jointKinds) (rest : Trail resolver tokens descriptions) :
      Trail resolver (joint :: tokens) descriptions
  | related (operation : OperationPhrase) {relation : Relation} (openers : List Token)
      (label : DescriptionPhrase) {tokens : List Token} {description : Description}
      {descriptions : List Description} (resolves : operation.denote resolver = some relation)
      (parens : ∀ opener ∈ openers, opener.kind = .leftParen)
      (denotes : label.denote resolver.checkRegex relation = some description.unmodified)
      (rest : Trail resolver tokens descriptions) :
      Trail resolver (operation.tokens ++ (openers ++ (label.tokens ++ tokens)))
        (description :: descriptions)

def Heads (resolver : Resolver) (relation : Relation) (tokens : List Token)
    (description : Description) (others : List Description) : Prop :=
  ∃ (openers : List Token) (label : DescriptionPhrase) (rest : List Token),
    tokens = openers ++ (label.tokens ++ rest) ∧
      (∀ opener ∈ openers, opener.kind = .leftParen) ∧
        label.denote resolver.checkRegex relation = some description.unmodified ∧
          Trail resolver rest others

section Trail

variable {resolver : Resolver} {relation : Relation} {tokens others : List Token}
  {description : Description} {descriptions more : List Description}

theorem Trail.append (first : Trail resolver tokens descriptions)
    (second : Trail resolver others more) :
    Trail resolver (tokens ++ others) (descriptions ++ more) := by
  induction first with
  | nil => exact second
  | joint between _ ih => exact .joint between ih
  | related operation openers label resolves parens denotes _ ih =>
      simpa only [List.append_assoc, List.cons_append] using
        Trail.related operation openers label resolves parens denotes ih

-- A modifier of the first constraint is not written in its stretch.
theorem Trail.modified (trail : Trail resolver tokens (description :: descriptions))
    {other : Description} (same : other.unmodified = description.unmodified) :
    Trail resolver tokens (other :: descriptions) := by
  generalize listed : description :: descriptions = all at trail
  induction trail with
  | nil => cases listed
  | joint between _ ih => exact .joint between (ih listed)
  | related operation openers label resolves parens denotes rest ih =>
      cases listed
      exact .related operation openers label resolves parens (denotes.trans (same ▸ rfl)) rest

theorem Trail.joined {joint : Token} (trail : Trail resolver tokens descriptions)
    (between : joint.kind ∈ jointKinds) : Trail resolver (tokens ++ [joint]) descriptions := by
  simpa only [List.append_nil] using trail.append (.joint between .nil)

theorem Heads.append (heads : Heads resolver relation tokens description descriptions)
    (second : Trail resolver others more) :
    Heads resolver relation (tokens ++ others) description (descriptions ++ more) := by
  obtain ⟨openers, label, rest, rfl, parens, denotes, trail⟩ := heads
  exact ⟨openers, label, rest ++ others, by simp only [List.append_assoc], parens, denotes,
    trail.append second⟩

theorem Heads.enclosed {opener closer : Token} (isOpener : opener.kind = .leftParen)
    (isCloser : closer.kind = .rightParen)
    (heads : Heads resolver relation tokens description descriptions) :
    Heads resolver relation (opener :: (tokens ++ [closer])) description descriptions := by
  obtain ⟨openers, label, rest, rfl, parens, denotes, trail⟩ := heads
  refine ⟨opener :: openers, label, rest ++ [closer], by simp, ?_, denotes, ?_⟩
  · exact List.forall_mem_cons.2 ⟨isOpener, parens⟩
  · exact trail.joined (by rw [isCloser]; decide)

theorem Heads.related (operation : OperationPhrase)
    (resolves : operation.denote resolver = some relation)
    (heads : Heads resolver relation tokens description descriptions) :
    Trail resolver (operation.tokens ++ tokens) (description :: descriptions) := by
  obtain ⟨openers, label, rest, rfl, parens, denotes, trail⟩ := heads
  exact .related operation openers label resolves parens denotes trail

theorem Trail.stretches (trail : Trail resolver tokens descriptions) :
    ∃ joints pieces, tokens = joints ++ List.flatten pieces ∧
      (∀ joint ∈ joints, joint.kind ∈ jointKinds) ∧
        List.Forall₂ (WritesRelated resolver) pieces descriptions := by
  induction trail with
  | nil => exact ⟨[], [], rfl, List.forall_mem_nil _, .nil⟩
  | joint between _ ih =>
      obtain ⟨joints, pieces, rfl, kinds, each⟩ := ih
      exact ⟨_ :: joints, pieces, rfl, List.forall_mem_cons.2 ⟨between, kinds⟩, each⟩
  | related operation openers label resolves parens denotes _ ih =>
      obtain ⟨joints, pieces, rfl, kinds, each⟩ := ih
      refine ⟨[], (operation.tokens ++ (openers ++ (label.tokens ++ joints))) :: pieces,
        by simp, List.forall_mem_nil _, .cons ?_ each⟩
      exact ⟨operation, _, _, rfl, resolves, (DescriptionPhrase.denote_plain denotes).1, openers,
        label, joints, rfl, parens, kinds, denotes⟩

theorem Heads.stretches (heads : Heads resolver relation tokens description descriptions) :
    ∃ first pieces, tokens = first ++ List.flatten pieces ∧
      Writes resolver.checkRegex relation first description ∧
        List.Forall₂ (WritesRelated resolver) pieces descriptions := by
  obtain ⟨openers, label, rest, rfl, parens, denotes, trail⟩ := heads
  obtain ⟨joints, pieces, rfl, kinds, each⟩ := trail.stretches
  exact ⟨openers ++ (label.tokens ++ joints), pieces, by simp,
    ⟨(DescriptionPhrase.denote_plain denotes).1, openers, label, joints, rfl, parens, kinds,
      denotes⟩, each⟩

end Trail

theorem Within.operator_free {kinds : List TokenKind} {tokens : List Token}
    (within : Within kinds tokens)
    (apart : ∀ kind ∈ kinds, [TokenKind.operator, .chainOperator].contains kind = false) :
    OperatorFree tokens := fun token inside => apart _ (within token inside)

theorem OperationPhrase.led (phrase : OperationPhrase) : Stretch phrase.tokens := by
  cases phrase with
  | plain operator number =>
      have digits : Within [.number] (optionalTokens number) := optional_within (List.Subset.refl _)
      refine ⟨operator.token, optionalTokens number, rfl, ?_, digits.operator_free (by decide)⟩
      rw [Token.isOperator, operator.kind_eq]
      rfl
  | chain operator argument =>
      refine ⟨operator.token, argument.tokens, rfl, ?_, argument.within.operator_free (by decide)⟩
      rw [Token.isOperator, operator.kind_eq]
      rfl

theorem DescriptionPhrase.tokens_ne_nil (phrase : DescriptionPhrase) : phrase.tokens ≠ [] := by
  obtain ⟨negation, category, bare⟩ := phrase
  cases bare <;> simp [tokens, BarePhrase.tokens]

theorem DescriptionPhrase.operator_free (phrase : DescriptionPhrase) :
    OperatorFree phrase.tokens := phrase.within.operator_free (by decide)

section Writes

variable {resolver : Resolver} {relation : Relation} {tokens : List Token}
  {description : Description}

theorem Writes.operator_free (writes : Writes resolver.checkRegex relation tokens description) :
    OperatorFree tokens := by
  obtain ⟨-, openers, label, joints, rfl, parens, kinds, -⟩ := writes
  have openers_free : OperatorFree openers := by
    have kinds : Within [.leftParen] openers :=
      fun opener inside => List.mem_singleton.2 (parens opener inside)
    exact kinds.operator_free (by decide)
  have joints_free : OperatorFree joints := by
    have kinds : Within jointKinds joints := kinds
    exact kinds.operator_free (by decide)
  exact operator_free_append.2
    ⟨openers_free, operator_free_append.2 ⟨label.operator_free, joints_free⟩⟩

theorem Writes.ne_nil (writes : Writes resolver.checkRegex relation tokens description) :
    tokens ≠ [] := by
  obtain ⟨-, openers, label, joints, rfl, -⟩ := writes
  simp [label.tokens_ne_nil]

theorem WritesRelated.stretch (writes : WritesRelated resolver tokens description) :
    Stretch tokens := by
  obtain ⟨operation, relation, rest, rfl, -, inside⟩ := writes
  obtain ⟨operator, argument, spelt, leads, free⟩ := operation.led
  refine ⟨operator, argument ++ rest, by rw [spelt]; rfl, leads, ?_⟩
  exact operator_free_append.2 ⟨free, inside.operator_free⟩

end Writes

section Trees

variable {resolver : Resolver} {tokens others : List Token} {node : Node}

theorem Trail.negate (trail : Trail resolver tokens node.descriptions) :
    Trail resolver tokens node.negate.descriptions := by
  cases node with
  | described description child => exact trail.modified rfl
  | coordination c members => exact trail

theorem Trail.makeOptional (trail : Trail resolver tokens node.descriptions) :
    Trail resolver tokens node.makeOptional.descriptions := by
  cases node with
  | described description child => exact trail.modified rfl
  | coordination c members => exact trail

def memberDescriptions (nodes : List Node) : List Description :=
  (Node.describedNodesOfMembers nodes).map Described.description

theorem member_descriptions_cons (node : Node) (nodes : List Node) :
    memberDescriptions (node :: nodes) = node.descriptions ++ memberDescriptions nodes :=
  List.map_append

theorem gathered_descriptions (conjunctive : Bool) (first : Node) (nodes : List Node) :
    (gathered conjunctive first nodes).descriptions = memberDescriptions (first :: nodes) := by
  cases nodes with
  | nil =>
      simp [gathered, memberDescriptions, Node.descriptions, Node.describedNodesOfMembers]
  | cons second nodes => rfl

def lowerDescriptions (top : Described) : List Description :=
  (Node.describedNodesOfChild top.child).map Described.description

theorem beneath_descriptions (top : Described) (child : Node) :
    lowerDescriptions (beneath top child) = lowerDescriptions top ++ child.descriptions := by
  obtain ⟨description, earlier⟩ := top
  cases earlier with
  | none => rfl
  | some earlier =>
      simp [lowerDescriptions, beneath, Node.descriptions, Node.describedNodesOfChild,
        Node.describedNodes, Node.describedNodesOfMembers]

theorem beneath_description (top : Described) (child : Node) :
    (beneath top child).description = top.description := by
  unfold beneath
  split <;> rfl

end Trees

variable {resolver : Resolver}

mutual

theorem NodePhrase.heads {relation : Relation} : (phrase : NodePhrase) → ∀ {top : Described},
    phrase.denote resolver relation = some top →
      Heads resolver relation phrase.tokens top.description (lowerDescriptions top)
  | .enclosed opener inner closer, top, denoted => by
      rw [NodePhrase.denote] at denoted
      exact (SubNodePhrase.heads inner denoted).enclosed opener.kind_eq closer.kind_eq
  | .label description, top, denoted => by
      rw [NodePhrase.denote] at denoted
      obtain ⟨found, denotes, rfl⟩ := Option.map_eq_some_iff.1 denoted
      obtain ⟨-, positive, required⟩ := DescriptionPhrase.denote_plain denotes
      rw [← Description.unmodified_eq positive required] at denotes
      exact ⟨[], description, [], by simp [NodePhrase.tokens], List.forall_mem_nil _, denotes, .nil⟩

theorem SubNodePhrase.heads {relation : Relation} : (phrase : SubNodePhrase) →
    ∀ {top : Described}, phrase.denote resolver relation = some top →
      Heads resolver relation phrase.tokens top.description (lowerDescriptions top)
  | .alone node, top, denoted => by
      rw [SubNodePhrase.denote] at denoted
      exact NodePhrase.heads node denoted
  | .above node children, top, denoted => by
      obtain ⟨inner, child, found, behind, rfl⟩ := SubNodePhrase.denote_above.1 denoted
      rw [beneath_description, beneath_descriptions]
      exact (NodePhrase.heads node found).append (DisjunctionPhrase.trail children behind)

theorem DisjunctionPhrase.trail : (phrase : DisjunctionPhrase) → ∀ {node : Node},
    phrase.denote resolver = some node → Trail resolver phrase.tokens node.descriptions
  | .of first others, node, denoted => by
      obtain ⟨head, tail, found, behind, rfl⟩ := DisjunctionPhrase.denote_of.1 denoted
      rw [gathered_descriptions, member_descriptions_cons]
      exact (ConjunctionPhrase.trail first found).append (DisjunctsPhrase.trail others behind)

theorem DisjunctsPhrase.trail : (phrase : DisjunctsPhrase) → ∀ {nodes : List Node},
    phrase.denote resolver = some nodes → Trail resolver phrase.tokens (memberDescriptions nodes)
  | .nil, nodes, denoted => by
      cases denoted
      exact .nil
  | .cons bar next others, nodes, denoted => by
      obtain ⟨head, tail, found, behind, rfl⟩ := DisjunctsPhrase.denote_cons.1 denoted
      rw [member_descriptions_cons]
      apply Trail.joint (by rw [bar.kind_eq]; decide)
      exact (ConjunctionPhrase.trail next found).append (DisjunctsPhrase.trail others behind)

theorem ConjunctionPhrase.trail : (phrase : ConjunctionPhrase) → ∀ {node : Node},
    phrase.denote resolver = some node → Trail resolver phrase.tokens node.descriptions
  | .of first others, node, denoted => by
      obtain ⟨head, tail, found, behind, rfl⟩ := ConjunctionPhrase.denote_of.1 denoted
      rw [gathered_descriptions, member_descriptions_cons]
      exact (ConstraintPhrase.trail first found).append (ConjunctsPhrase.trail others behind)

theorem ConjunctsPhrase.trail : (phrase : ConjunctsPhrase) → ∀ {nodes : List Node},
    phrase.denote resolver = some nodes → Trail resolver phrase.tokens (memberDescriptions nodes)
  | .nil, nodes, denoted => by
      cases denoted
      exact .nil
  | .cons joint next others, nodes, denoted => by
      obtain ⟨head, tail, found, behind, rfl⟩ := ConjunctsPhrase.denote_cons.1 denoted
      rw [member_descriptions_cons]
      have trail :=
        (ConstraintPhrase.trail next found).append (ConjunctsPhrase.trail others behind)
      cases joint with
      | none => exact trail
      | some ampersand => exact .joint (by rw [ampersand.kind_eq]; decide) trail

theorem ConstraintPhrase.trail : (phrase : ConstraintPhrase) → ∀ {node : Node},
    phrase.denote resolver = some node → Trail resolver phrase.tokens node.descriptions
  | .plain constraint, node, denoted => by
      rw [ConstraintPhrase.denote] at denoted
      exact PlainPhrase.trail constraint denoted
  | .negated bang constraint, node, denoted => by
      obtain ⟨found, denotes, rfl⟩ := ConstraintPhrase.denote_negated.1 denoted
      exact .joint (by rw [bang.kind_eq]; decide) (PlainPhrase.trail constraint denotes).negate
  | .optional question constraint, node, denoted => by
      obtain ⟨found, denotes, rfl⟩ := ConstraintPhrase.denote_optional.1 denoted
      exact .joint (by rw [question.kind_eq]; decide)
        (PlainPhrase.trail constraint denotes).makeOptional

theorem PlainPhrase.trail : (phrase : PlainPhrase) → ∀ {node : Node},
    phrase.denote resolver = some node → Trail resolver phrase.tokens node.descriptions
  | .group opener members closer, node, denoted => by
      rw [PlainPhrase.denote] at denoted
      apply Trail.joint (by rw [opener.kind_eq]; decide)
      exact (DisjunctionPhrase.trail members denoted).joined (by rw [closer.kind_eq]; decide)
  | .related operation node, other, denoted => by
      rw [PlainPhrase.denote] at denoted
      obtain ⟨relation, resolves, denoted⟩ := Option.bind_eq_some_iff.1 denoted
      obtain ⟨target, found, rfl⟩ := Option.map_eq_some_iff.1 denoted
      exact (NodePhrase.heads node found).related operation resolves

end

section Order

variable {tokens : List Token} {parsed : Parsed}

/-- The tokens of an accepted pattern, up to the end of the input, cut in front of every
operator: the stretches are as many as the descriptions of the tree, and each writes the
description in its place. The first description is that of the root, every other one has the
relation that its operator names. No description is lost, read twice or out of place. -/
theorem parse_tokens_descriptions_in_order (accepted : parseTokens resolver tokens = .ok parsed) :
    let body := tokens.takeWhile (·.kind ≠ .endOfInput)
    parsed.root.descriptions.length = body.countP Token.isOperator + 1 ∧
      ∃ (first : List Token) (others : List (List Token)) (top : Description)
        (later : List Description),
        stretches body = first :: others ∧ parsed.root.descriptions = top :: later ∧
          others.map List.head? = (body.filter Token.isOperator).map some ∧
            Writes resolver.checkRegex Relation.root first top ∧
              List.Forall₂ (WritesRelated resolver) others later := by
  intro body
  obtain ⟨phrase, names, spelt, -, found, -⟩ := parse_tokens_outcome accepted
  have denoted : phrase.top.denote resolver Relation.root = some parsed.top :=
    (outcome_of_eq_some.1 found).1
  have heads := (phrase.top.heads denoted).append
    (.joint (by rw [phrase.terminator.kind_eq]; decide) .nil)
  obtain ⟨first, pieces, split, writes, each⟩ := heads.stretches
  have same : body = first ++ pieces.flatten := spelt.symm.trans split
  rw [List.append_nil] at each
  have led : ∀ piece ∈ pieces, Stretch piece := by
    intro piece inside
    obtain ⟨description, -, related⟩ := related_member each piece inside
    exact related.stretch
  have free := writes.operator_free
  have operators : body.filter Token.isOperator = pieces.flatten.filter Token.isOperator := by
    have none : first.filter Token.isOperator = [] := by
      apply List.filter_eq_nil_iff.2
      intro token inside
      rw [free token inside]
      exact Bool.false_ne_true
    rw [same, List.filter_append, none]
    rfl
  have leaders := stretches_operators led
  rw [← operators] at leaders
  have cut : stretches body = first :: pieces := by
    obtain ⟨token, rest, rfl⟩ := List.exists_cons_of_ne_nil writes.ne_nil
    rw [same]
    exact stretches_flatten led token (operator_free_cons.1 free).2
  constructor
  · have counted := congrArg List.length leaders
    rw [List.length_map, List.length_map, each.length_eq, ← List.countP_eq_length_filter] at counted
    exact congrArg Nat.succ counted
  · exact ⟨first, pieces, parsed.top.description, lowerDescriptions parsed.top, cut, rfl, leaders,
      writes, each⟩

theorem parse_tokens_descriptions_in_order_nested :
    ∃ (tokens : List Token) (parsed : Parsed),
      tokenize "S=s [<-2 (A < !@B) | ? << =s] $+ (__#1=g) < C;".toList = .ok tokens ∧
        parseTokens .standard tokens = .ok parsed ∧
          parsed.root.descriptions.length =
            (tokens.takeWhile (·.kind ≠ .endOfInput)).countP Token.isOperator + 1 := by
  have accepted : (parseText .standard "S=s [<-2 (A < !@B) | ? << =s] $+ (__#1=g) < C;".toList).toOption.map
      (·.root.descriptions.length) = some 6 := by decide +kernel
  obtain ⟨parsed, found, counted⟩ := Option.map_eq_some_iff.1 accepted
  obtain ⟨tokens, lexed, parses⟩ := parse_text_eq_ok.1 (to_option_eq_some.1 found)
  exact ⟨tokens, parsed, lexed, parses, (parse_tokens_descriptions_in_order parses).1⟩

-- Operators behind the end of the input are never read.
theorem descriptions_fewer_than_operators :
    ∃ (tokens : List Token) (parsed : Parsed), parseTokens .standard tokens = .ok parsed ∧
      parsed.root.descriptions.length ≠ tokens.countP Token.isOperator + 1 := by
  have accepted : (parseTokens .standard [⟨.identifier, ['A'], ⟨0, 1, 1⟩⟩, ⟨.semicolon, [';'], ⟨1, 1, 2⟩⟩,
      ⟨.endOfInput, [], ⟨2, 1, 3⟩⟩, ⟨.operator, ['<'], ⟨3, 1, 4⟩⟩, ⟨.identifier, ['B'], ⟨4, 1, 5⟩⟩,
      ⟨.semicolon, [';'], ⟨5, 1, 6⟩⟩, ⟨.endOfInput, [], ⟨6, 1, 7⟩⟩]).toOption.map
      (·.root.descriptions.length) = some 1 := by decide +kernel
  obtain ⟨parsed, found, counted⟩ := Option.map_eq_some_iff.1 accepted
  refine ⟨_, parsed, to_option_eq_some.1 found, ?_⟩
  rw [counted]
  decide

end Order

end Grammar

end TreeQuery

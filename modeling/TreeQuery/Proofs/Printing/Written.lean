import TreeQuery.Proofs.Printing.Readable
import TreeQuery.Proofs.Grammar.Reads.Level

/- The grammar of printed trees. It has no ampersands, parentheses only around a node with
   something below it, and unlike the grammar of patterns it takes both modifiers before one
   constraint. Whatever stands behind them, the tokens of a printed tree belong to no other
   tree. -/
set_option autoImplicit false

namespace TreeQuery

open Grammar

namespace Node

def marked (negated optional : Bool) (node : Node) : Node :=
  let inner := if optional then node.makeOptional else node
  if negated then inner.negate else inner

theorem marked_described (description : Description) (child : Option Node) :
    marked description.negated description.optional
      (.described { description with negated := false, optional := false } child) =
        .described description child := by
  obtain ⟨relation, negated, optional⟩ := description
  cases negated <;> cases optional <;> rfl

theorem marked_coordination (c : Coordination) (members : List Node) :
    marked c.negated c.optional (.coordination ⟨c.conjunctive, false, false⟩ members) =
      .coordination c members := by
  obtain ⟨conjunctive, negated, optional⟩ := c
  cases negated <;> cases optional <;> rfl

end Node

-- A constraint behind its modifiers and with them, constraints side by side, and several of
-- these with bars between them.
inductive Layer where
  | plain
  | constraint
  | conjuncts
  | disjuncts

def Layer.starts : Layer → List TokenKind
  | plain => [.operator, .chainOperator, .leftBracket]
  | _ => constraintStart

def Layer.follow : Layer → List TokenKind
  | plain => behindNode
  | constraint => behindNode
  | conjuncts => behindConjunction
  | disjuncts => closers

inductive Written (resolver : Resolver) : Layer → List Node → List Token → Prop where
  | labelled {description : Description} {operation label : List Token}
      (related : SpeltRelation resolver description.relation operation)
      (spelt : SpeltLabel resolver.checkRegex description label) :
      Written resolver .plain
        [.described { description with negated := false, optional := false } none]
        (operation ++ label)
  | headed {description : Description} {operation label below : List Token} {nodes : List Node}
      (opener : Leaf [.leftParen]) (closer : Leaf [.rightParen])
      (related : SpeltRelation resolver description.relation operation)
      (spelt : SpeltLabel resolver.checkRegex description label)
      (children : Written resolver .conjuncts nodes below) :
      Written resolver .plain
        [.described { description with negated := false, optional := false }
          (some (Node.coordinate true nodes))]
        (operation ++ opener.token :: (label ++ (below ++ [closer.token])))
  | group {nodes : List Node} {inside : List Token} (opener : Leaf [.leftBracket])
      (closer : Leaf [.rightBracket]) (members : Written resolver .disjuncts nodes inside) :
      Written resolver .plain [Node.coordinate false nodes]
        (opener.token :: (inside ++ [closer.token]))
  | marked {node : Node} {tokens : List Token} (bang : Option (Leaf [.bang]))
      (question : Option (Leaf [.question])) (plain : Written resolver .plain [node] tokens) :
      Written resolver .constraint [node.marked bang.isSome question.isSome]
        (optionalTokens bang ++ (optionalTokens question ++ tokens))
  | conjunct {node : Node} {tokens : List Token}
      (only : Written resolver .constraint [node] tokens) :
      Written resolver .conjuncts [node] tokens
  | conjoined {node : Node} {nodes : List Node} {tokens others : List Token}
      (first : Written resolver .constraint [node] tokens)
      (next : Written resolver .conjuncts nodes others) :
      Written resolver .conjuncts (node :: nodes) (tokens ++ others)
  | disjunct {nodes : List Node} {tokens : List Token}
      (only : Written resolver .conjuncts nodes tokens) :
      Written resolver .disjuncts [Node.coordinate true nodes] tokens
  | disjoined {nodes branches : List Node} {tokens others : List Token} (bar : Leaf [.pipe])
      (first : Written resolver .conjuncts nodes tokens)
      (next : Written resolver .disjuncts branches others) :
      Written resolver .disjuncts (Node.coordinate true nodes :: branches)
        (tokens ++ bar.token :: others)

variable {resolver : Resolver} {tokens tokens' rest rest' : List Token} {last : Token}

theorem Grammar.Leaf.next_kind {kind : TokenKind} {kinds : List TokenKind} (leaf : Leaf [kind])
    (inside : kind ∈ kinds) (others : List Token) (last : Token) :
    nextKind (leaf.token :: others) last ∈ kinds := by
  rw [next_kind_cons, leaf.kind_eq]
  exact inside

theorem optional_tokens_unique {kind : TokenKind} {leaf leaf' : Option (Leaf [kind])}
    (apart : nextKind rest last ≠ kind) (apartToo : nextKind rest' last ≠ kind)
    (same : optionalTokens leaf ++ rest = optionalTokens leaf' ++ rest') :
    leaf'.isSome = leaf.isSome ∧ rest' = rest := by
  cases leaf with
  | none =>
      cases leaf' with
      | none => exact ⟨rfl, same.symm⟩
      | some leaf' =>
          change rest = leaf'.token :: rest' at same
          rw [same] at apart
          exact absurd leaf'.kind_eq apart
  | some leaf =>
      cases leaf' with
      | none =>
          change leaf.token :: rest = rest' at same
          rw [← same] at apartToo
          exact absurd leaf.kind_eq apartToo
      | some leaf' => exact ⟨rfl, (List.cons.inj same).2.symm⟩

-- A production is a function of the tokens, so that it reads one thing off them.
theorem Grammar.Reads.unique {α : Type} {production : Production α} {scope names names' : Scope}
    {follow : List TokenKind} {value value' : α}
    (reads : Reads production scope tokens follow True (some (value, names)))
    (readsToo : Reads production scope tokens' follow True (some (value', names')))
    (same : tokens ++ rest = tokens' ++ rest') (behind : nextKind rest last ∈ follow)
    (behindToo : nextKind rest' last ∈ follow) : value' = value ∧ rest' = rest := by
  have one := reads ⟨⟨tokens ++ rest, last, []⟩, scope⟩ rest last ⟨rfl, rfl, rfl⟩ behind
  have other := readsToo ⟨⟨tokens ++ rest, last, []⟩, scope⟩ rest' last ⟨same, rfl, rfl⟩ behindToo
  cases run : production ⟨⟨tokens ++ rest, last, []⟩, scope⟩ with
  | error error after =>
      rw [run] at one
      cases error with
      | unexpectedToken => exact one.elim
      | nestingTooDeep => exact absurd trivial one
      | _ => cases one
  | ok found after =>
      rw [run] at one other
      obtain ⟨_, here, -, result⟩ := one
      obtain ⟨_, there, -, resultToo⟩ := other
      cases result
      cases resultToo
      exact ⟨rfl, there.upcoming_eq.symm.trans here.upcoming_eq⟩

theorem SpeltRelation.unique {relation relation' : Relation}
    (spelt : SpeltRelation resolver relation tokens)
    (speltToo : SpeltRelation resolver relation' tokens') (same : tokens ++ rest = tokens' ++ rest')
    (behind : nextKind rest last ∈ nodeStart) (behindToo : nextKind rest' last ∈ nodeStart) :
    relation' = relation ∧ rest' = rest := by
  obtain ⟨phrase, rfl, denoted⟩ := spelt
  obtain ⟨phrase', rfl, denotedToo⟩ := speltToo
  have apart : .number ∉ nodeStart := by decide
  have reads : Reads Production.operation Scope.empty phrase.tokens nodeStart True
      (some (phrase.operation, Scope.empty)) := Reads.operation phrase apart
  obtain ⟨operation, rests⟩ := reads.unique (Reads.operation phrase' apart) same behind behindToo
  unfold OperationPhrase.denote at denoted denotedToo
  rw [operation, denoted] at denotedToo
  exact ⟨(Option.some.inj denotedToo).symm, rests⟩

theorem Description.scope_behind_unchecked (description : Description) (underNegation : Bool)
    (scope : Scope) : description.scopeBehind false underNegation scope = some scope := by
  have groups : ∀ groups, scope.behindGroups false groups = some scope := by
    intro groups
    induction groups with
    | nil => rfl
    | cons group groups ih => exact ih
  have references : ∀ name, scope.behindReference false name = some scope := by
    intro name
    cases name <;> rfl
  unfold scopeBehind
  rw [groups, Option.bind_some, references, Option.bind_some, references, Option.bind_some]
  cases description.capture <;> rfl

theorem SpeltLabel.unique {checker : Regex.Checker} {description description' : Description}
    (spelt : SpeltLabel checker description tokens)
    (speltToo : SpeltLabel checker description' tokens')
    (relations : description'.relation = description.relation)
    (same : tokens ++ rest = tokens' ++ rest') (behind : nextKind rest last ∈ behindNode)
    (behindToo : nextKind rest' last ∈ behindNode) :
    { description' with negated := false, optional := false } =
      { description with negated := false, optional := false } ∧ rest' = rest := by
  obtain ⟨phrase, rfl, denoted⟩ := spelt
  obtain ⟨phrase', rfl, denotedToo⟩ := speltToo
  have reads : ∀ phrase : DescriptionPhrase, Reads (Production.description
      ⟨⟨.pennTreebank, .leftmost, checker⟩, false⟩ false description.relation) Scope.empty
      phrase.tokens behindNode True
      (outcomeOf (phrase.denote checker description.relation)
        (Description.scopeBehind false false) Scope.empty) := fun phrase =>
    Reads.description ⟨⟨.pennTreebank, .leftmost, checker⟩, false⟩ false description.relation phrase
      (by decide) (by decide)
  have one := reads phrase
  have other := reads phrase'
  rw [denoted description.relation, outcome_of_eq_some.2
    ⟨rfl, Description.scope_behind_unchecked _ false Scope.empty⟩] at one
  rw [denotedToo description.relation, outcome_of_eq_some.2
    ⟨rfl, Description.scope_behind_unchecked _ false Scope.empty⟩] at other
  obtain ⟨descriptions, rests⟩ := one.unique other same behind behindToo
  rw [← descriptions, ← relations]
  exact ⟨rfl, rests⟩

def labelStart : List TokenKind :=
  [.bang, .atSign, .identifier, .regex, .blank, .tilde, .equals]

theorem SpeltLabel.opens {checker : Regex.Checker} {description : Description}
    (spelt : SpeltLabel checker description tokens) (follow : List TokenKind) :
    Opens tokens follow labelStart := by
  obtain ⟨phrase, rfl, _⟩ := spelt
  exact description_opens phrase follow

theorem SpeltLabel.next_kind {checker : Regex.Checker} {description : Description}
    (spelt : SpeltLabel checker description tokens) (rest : List Token) (last : Token) :
    nextKind (tokens ++ rest) last ∈ nodeStart :=
  List.mem_cons_of_mem _ (spelt.opens [nextKind rest last] rest last (List.mem_singleton.2 rfl))

theorem SpeltLabel.not_enclosed {checker : Regex.Checker} {description : Description}
    (spelt : SpeltLabel checker description tokens) (opener : Leaf [.leftParen]) :
    tokens ++ rest ≠ opener.token :: rest' := by
  intro same
  have start := spelt.opens [nextKind rest opener.token] rest opener.token
    (List.mem_singleton.2 rfl)
  rw [same, next_kind_cons, opener.kind_eq] at start
  exact absurd start (by decide)

theorem SpeltRelation.opens {relation : Relation} (spelt : SpeltRelation resolver relation tokens)
    (follow : List TokenKind) : Opens tokens follow [.operator, .chainOperator] := by
  obtain ⟨phrase, rfl, _⟩ := spelt
  exact operation_opens phrase follow

theorem SpeltRelation.not_bracketed {relation : Relation}
    (spelt : SpeltRelation resolver relation tokens) (opener : Leaf [.leftBracket]) :
    tokens ++ rest ≠ opener.token :: rest' := by
  intro same
  have start := spelt.opens [nextKind rest opener.token] rest opener.token
    (List.mem_singleton.2 rfl)
  rw [same, next_kind_cons, opener.kind_eq] at start
  exact absurd start (by decide)

namespace Written

variable {layer : Layer} {nodes nodes' : List Node}

theorem opens (written : Written resolver layer nodes tokens) (follow : List TokenKind) :
    Opens tokens follow layer.starts := by
  induction written generalizing follow with
  | labelled related _ => exact (Opens.append related.opens).mono (List.Subset.refl _) (by decide)
  | headed _ _ related _ _ _ =>
      exact (Opens.append related.opens).mono (List.Subset.refl _) (by decide)
  | group opener _ _ _ => exact (Opens.cons opener.kind_mem).mono (List.Subset.refl _) (by decide)
  | marked bang question _ ih =>
      exact (Opens.optional bang (Opens.optional question (ih follow))).mono
        (List.Subset.refl _) (by decide)
  | conjunct _ ih => exact ih follow
  | conjoined _ _ ih _ => exact Opens.append ih
  | disjunct _ ih => exact ih follow
  | disjoined _ _ _ ih _ => exact Opens.append ih

theorem next_kind (written : Written resolver layer nodes tokens) (rest : List Token)
    (last : Token) : nextKind (tokens ++ rest) last ∈ layer.starts :=
  written.opens [nextKind rest last] rest last (List.mem_singleton.2 rfl)

theorem not_behind (written : Written resolver .conjuncts nodes tokens) (rest : List Token)
    (last : Token) : nextKind (tokens ++ rest) last ∉ behindConjunction := by
  have disjoint : ∀ kind ∈ constraintStart, kind ∉ behindConjunction := by decide
  exact disjoint _ (written.next_kind rest last)

theorem behind_node (written : Written resolver .conjuncts nodes tokens) (rest : List Token)
    (last : Token) : nextKind (tokens ++ rest) last ∈ behindNode := by
  have among : constraintStart ⊆ behindNode := by decide
  exact among (written.next_kind rest last)

end Written

-- The same tokens, with something behind them that cannot belong to them, stand for no other
-- nodes.
def Settles (resolver : Resolver) (last : Token) (layer : Layer) (nodes : List Node)
    (tokens : List Token) : Prop :=
  ∀ (nodes' : List Node) (tokens' rest rest' : List Token), Written resolver layer nodes' tokens' →
    tokens ++ rest = tokens' ++ rest' → nextKind rest last ∈ layer.follow →
      nextKind rest' last ∈ layer.follow → nodes' = nodes ∧ rest' = rest

namespace Settles

variable {description : Description} {operation label below others : List Token} {node : Node}
  {nodes branches : List Node}

theorem labelled (related : SpeltRelation resolver description.relation operation)
    (spelt : SpeltLabel resolver.checkRegex description label) : Settles resolver last .plain
      [.described { description with negated := false, optional := false } none]
      (operation ++ label) := by
  intro nodes' tokens' rest rest' written same behind behindToo
  rw [List.append_assoc] at same
  cases written with
  | labelled relatedToo speltToo =>
      rw [List.append_assoc] at same
      obtain ⟨relations, labels⟩ := related.unique relatedToo same (spelt.next_kind rest last)
        (speltToo.next_kind rest' last)
      obtain ⟨descriptions, rests⟩ := spelt.unique speltToo relations labels.symm behind behindToo
      exact ⟨by rw [descriptions], rests⟩
  | headed opener _ relatedToo _ _ =>
      rw [List.append_assoc] at same
      obtain ⟨_, labels⟩ := related.unique relatedToo same (spelt.next_kind rest last)
        (opener.next_kind (by decide) _ last)
      exact absurd labels.symm (spelt.not_enclosed opener)
  | group opener _ _ => exact absurd same (related.not_bracketed opener)

theorem headed (opener : Leaf [.leftParen]) (closer : Leaf [.rightParen])
    (related : SpeltRelation resolver description.relation operation)
    (spelt : SpeltLabel resolver.checkRegex description label)
    (children : Written resolver .conjuncts nodes below)
    (settled : Settles resolver last .conjuncts nodes below) : Settles resolver last .plain
      [.described { description with negated := false, optional := false }
        (some (Node.coordinate true nodes))]
      (operation ++ opener.token :: (label ++ (below ++ [closer.token]))) := by
  intro nodes' tokens' rest rest' written same behind behindToo
  rw [List.append_assoc] at same
  cases written with
  | labelled relatedToo speltToo =>
      rw [List.append_assoc] at same
      obtain ⟨_, labels⟩ := related.unique relatedToo same (opener.next_kind (by decide) _ last)
        (speltToo.next_kind rest' last)
      exact absurd labels (speltToo.not_enclosed opener)
  | headed openerToo closerToo relatedToo speltToo childrenToo =>
      rw [List.append_assoc] at same
      obtain ⟨relations, opened⟩ := related.unique relatedToo same
        (opener.next_kind (by decide) _ last) (openerToo.next_kind (by decide) _ last)
      simp only [List.cons_append, List.append_assoc] at opened
      have labels := (List.cons.inj opened).2
      obtain ⟨descriptions, lower⟩ := spelt.unique speltToo relations labels.symm
        (children.behind_node _ last) (childrenToo.behind_node _ last)
      obtain ⟨rfl, closed⟩ := settled _ _ _ _ childrenToo lower.symm
        (closer.next_kind (by decide) _ last) (closerToo.next_kind (by decide) _ last)
      exact ⟨by rw [descriptions], (List.cons.inj closed).2⟩
  | group opener _ _ => exact absurd same (related.not_bracketed opener)

theorem group (opener : Leaf [.leftBracket]) (closer : Leaf [.rightBracket])
    (settled : Settles resolver last .disjuncts nodes tokens) : Settles resolver last .plain
      [Node.coordinate false nodes] (opener.token :: (tokens ++ [closer.token])) := by
  intro nodes' tokens' rest rest' written same behind behindToo
  cases written with
  | labelled relatedToo _ =>
      rw [List.append_assoc] at same
      exact absurd same.symm (relatedToo.not_bracketed opener)
  | headed _ _ relatedToo _ _ =>
      rw [List.append_assoc] at same
      exact absurd same.symm (relatedToo.not_bracketed opener)
  | group openerToo closerToo membersToo =>
      simp only [List.cons_append, List.append_assoc] at same
      have inside := (List.cons.inj same).2
      obtain ⟨rfl, closed⟩ := settled _ _ _ _ membersToo inside
        (closer.next_kind (by decide) _ last) (closerToo.next_kind (by decide) _ last)
      exact ⟨rfl, (List.cons.inj closed).2⟩

theorem marks {bang bang' : Option (Leaf [.bang])} {question question' : Option (Leaf [.question])}
    (starts : nextKind rest last ∈ Layer.plain.starts)
    (startsToo : nextKind rest' last ∈ Layer.plain.starts)
    (same : optionalTokens bang ++ (optionalTokens question ++ rest) =
      optionalTokens bang' ++ (optionalTokens question' ++ rest')) :
    bang'.isSome = bang.isSome ∧ question'.isSome = question.isSome ∧ rest' = rest := by
  have noMark : ∀ kind ∈ Layer.plain.starts, kind ≠ .question ∧ kind ≠ .bang := by decide
  have noBang : ∀ (question : Option (Leaf [.question])) (rest : List Token),
      nextKind rest last ∈ Layer.plain.starts →
        nextKind (optionalTokens question ++ rest) last ≠ .bang := by
    intro question rest starts
    cases question with
    | none => exact (noMark _ starts).2
    | some question =>
        change question.token.kind ≠ .bang
        rw [question.kind_eq]
        decide
  obtain ⟨bangs, behindBang⟩ := optional_tokens_unique (noBang question rest starts)
    (noBang question' rest' startsToo) same
  obtain ⟨questions, rests⟩ := optional_tokens_unique (noMark _ starts).1 (noMark _ startsToo).1
    behindBang.symm
  exact ⟨bangs, questions, rests⟩

theorem marked (bang : Option (Leaf [.bang])) (question : Option (Leaf [.question]))
    (plain : Written resolver .plain [node] tokens)
    (settled : Settles resolver last .plain [node] tokens) : Settles resolver last .constraint
      [node.marked bang.isSome question.isSome]
      (optionalTokens bang ++ (optionalTokens question ++ tokens)) := by
  intro nodes' tokens' rest rest' written same behind behindToo
  cases written with
  | marked bangToo questionToo plainToo =>
      simp only [List.append_assoc] at same
      obtain ⟨bangs, questions, plains⟩ :=
        marks (plain.next_kind rest last) (plainToo.next_kind rest' last) same
      obtain ⟨heads, rests⟩ := settled _ _ _ _ plainToo plains.symm behind behindToo
      exact ⟨by rw [bangs, questions, (List.cons.inj heads).1], rests⟩

theorem behind_conjuncts : behindConjunction ⊆ behindNode := by decide

theorem conjunct (settled : Settles resolver last .constraint [node] tokens) :
    Settles resolver last .conjuncts [node] tokens := by
  intro nodes' tokens' rest rest' written same behind behindToo
  have wide := behind_conjuncts behind
  cases written with
  | conjunct onlyToo => exact settled _ _ _ _ onlyToo same wide (behind_conjuncts behindToo)
  | conjoined firstToo nextToo =>
      rw [List.append_assoc] at same
      obtain ⟨_, rests⟩ := settled _ _ _ _ firstToo same wide (nextToo.behind_node _ last)
      rw [← rests] at behind
      exact absurd behind (nextToo.not_behind _ last)

theorem conjoined (next : Written resolver .conjuncts nodes others)
    (settledFirst : Settles resolver last .constraint [node] tokens)
    (settledNext : Settles resolver last .conjuncts nodes others) :
    Settles resolver last .conjuncts (node :: nodes) (tokens ++ others) := by
  intro nodes' tokens' rest rest' written same behind behindToo
  rw [List.append_assoc] at same
  have further := next.behind_node rest last
  cases written with
  | conjunct onlyToo =>
      obtain ⟨_, rests⟩ := settledFirst _ _ _ _ onlyToo same further (behind_conjuncts behindToo)
      rw [rests] at behindToo
      exact absurd behindToo (next.not_behind _ last)
  | conjoined firstToo nextToo =>
      rw [List.append_assoc] at same
      obtain ⟨heads, rests⟩ := settledFirst _ _ _ _ firstToo same further
        (nextToo.behind_node _ last)
      obtain ⟨rfl, restsToo⟩ := settledNext _ _ _ _ nextToo rests.symm behind behindToo
      exact ⟨by rw [(List.cons.inj heads).1], restsToo⟩

theorem bar_not_closer (bar : Leaf [.pipe]) (others : List Token) (last : Token) :
    nextKind (bar.token :: others) last ∉ closers := by
  rw [next_kind_cons, bar.kind_eq]
  decide

theorem disjunct (settled : Settles resolver last .conjuncts nodes tokens) :
    Settles resolver last .disjuncts [Node.coordinate true nodes] tokens := by
  intro nodes' tokens' rest rest' written same behind behindToo
  have wide := List.mem_cons_of_mem .pipe behind
  cases written with
  | disjunct onlyToo =>
      obtain ⟨rfl, rests⟩ := settled _ _ _ _ onlyToo same wide (List.mem_cons_of_mem _ behindToo)
      exact ⟨rfl, rests⟩
  | disjoined bar firstToo _ =>
      rw [List.append_assoc] at same
      obtain ⟨_, rests⟩ := settled _ _ _ _ firstToo same wide (bar.next_kind (by decide) _ last)
      rw [← rests] at behind
      exact absurd behind (bar_not_closer bar _ last)

theorem disjoined (bar : Leaf [.pipe])
    (settledFirst : Settles resolver last .conjuncts nodes tokens)
    (settledNext : Settles resolver last .disjuncts branches others) :
    Settles resolver last .disjuncts (Node.coordinate true nodes :: branches)
      (tokens ++ bar.token :: others) := by
  intro nodes' tokens' rest rest' written same behind behindToo
  rw [List.append_assoc] at same
  have further : nextKind (bar.token :: (others ++ rest)) last ∈ behindConjunction :=
    bar.next_kind (by decide) _ last
  cases written with
  | disjunct onlyToo =>
      obtain ⟨_, rests⟩ := settledFirst _ _ _ _ onlyToo same further
        (List.mem_cons_of_mem _ behindToo)
      rw [rests] at behindToo
      exact absurd behindToo (bar_not_closer bar _ last)
  | disjoined barToo firstToo nextToo =>
      rw [List.append_assoc] at same
      obtain ⟨rfl, rests⟩ := settledFirst _ _ _ _ firstToo same further
        (barToo.next_kind (by decide) _ last)
      rw [List.cons_append, List.cons_append] at rests
      obtain ⟨rfl, restsToo⟩ :=
        settledNext _ _ _ _ nextToo (List.cons.inj rests).2.symm behind behindToo
      exact ⟨rfl, restsToo⟩

end Settles

-- Printed trees are read off their tokens, each layer from those below it.
theorem Written.settles {layer : Layer} {nodes : List Node}
    (written : Written resolver layer nodes tokens) (last : Token) :
    Settles resolver last layer nodes tokens := by
  induction written with
  | labelled related spelt => exact .labelled related spelt
  | headed opener closer related spelt children ih =>
      exact .headed opener closer related spelt children ih
  | group opener closer _ ih => exact .group opener closer ih
  | marked bang question plain ih => exact .marked bang question plain ih
  | conjunct _ ih => exact .conjunct ih
  | conjoined _ next ihFirst ihNext => exact .conjoined next ihFirst ihNext
  | disjunct _ ih => exact .disjunct ih
  | disjoined bar _ _ ihFirst ihNext => exact .disjoined bar ihFirst ihNext

end TreeQuery

import TreeQuery.Proofs.Printing.Spells

/- The canonical spelling of a relation that the resolver gave reads back as this
   relation. -/
set_option autoImplicit false

namespace TreeQuery

open Grammar

theorem child_index_again {text : Text} {index : Int} (found : childIndex? text = some index) :
    childIndex? (Text.ofInt index) = some index := by
  simp only [childIndex?] at found ⊢
  split at found
  · rename_i holds
    obtain ⟨-, notZero, low, high⟩ := holds
    cases found
    rw [Numeral.read_of_int]
    exact if_pos ⟨rfl, notZero, low, high⟩
  · cases found

theorem Regex.render_of_literal {checker : Regex.Checker} {body : Text} {regex : Regex}
    (closed : body.getLast? = some '/') (found : ofLiteral checker ('/' :: body) = .ok regex) :
    regex.render = '/' :: body := by
  unfold ofLiteral ofSource at found
  split at found
  · cases found
    have source : literalBody ('/' :: body) = body.dropLast := by simp [literalBody, closed]
    rw [render, source, List.cons_append]
    obtain ⟨front, rfl⟩ := List.getLast?_eq_some_iff.1 closed
    simp
  · cases found

namespace ChainArgument

variable {checker : Regex.Checker} {symbol text : Text} {parsed : ChainArgument}

theorem strip_mark_again (mark : Char) (text : Text) :
    (if (stripMark mark text).1 then [mark] else []) ++ (stripMark mark text).2 = text := by
  cases text with
  | nil => rfl
  | cons c rest => by_cases same : c = mark <;> simp [stripMark, same]

theorem render_of_text (found : ofText checker symbol text = .ok parsed) : parsed.render = text := by
  have marks : ∀ descriptor : Descriptor,
      descriptor.render = (stripMark '@' (stripMark '!' text).2).2 →
        (⟨descriptor, (stripMark '!' text).1, (stripMark '@' (stripMark '!' text).2).1⟩ :
          ChainArgument).render = text := by
    intro descriptor same
    simp only [render, same]
    rw [List.append_assoc, strip_mark_again, strip_mark_again]
  simp only [ofText] at found
  split at found
  · rename_i blank
    cases found
    exact marks .blank blank.symm
  · split at found
    · rename_i slashed
      split at found
      · rename_i regex read
        cases found
        refine marks (.regex regex) ?_
        simp only [isSlashed, Bool.and_eq_true, decide_eq_true_eq] at slashed
        obtain ⟨⟨long, opened⟩, closed⟩ := slashed
        cases body : (stripMark '@' (stripMark '!' text).2).2 with
        | nil =>
            rw [body] at opened
            cases opened
        | cons c rest =>
            rw [body] at long opened closed read
            cases opened
            cases rest with
            | nil => simp at long
            | cons second rest => exact Regex.render_of_literal (by simpa using closed) read
      · cases found
    · split at found
      · cases found
      · cases found
        exact marks (.identifier _) rfl

end ChainArgument

namespace Resolver

variable {resolver : Resolver} {symbol argument : Text} {relation : Relation}

theorem resolve_bare_again (found : resolver.resolveBare symbol = .ok relation) :
    ∃ plain : PlainRelation, relation.kind = .plain plain ∧
      resolver.resolveBare plain.symbol = .ok relation := by
  unfold resolveBare at found
  split at found
  · cases found
  · split at found
    · cases found
    · rename_i plain _
      cases found
      have notChain : ChainRelation.ofSymbol? plain.symbol = none := by cases plain <;> decide
      exact ⟨plain, rfl, by simp [resolveBare, notChain, PlainRelation.of_symbol_symbol]⟩

theorem resolve_with_index (notChain : ChainRelation.ofSymbol? symbol = none)
    (found : resolver.resolveWith symbol argument = .ok relation) :
    ∃ index, childIndex? argument = some index ∧
      (relation = .ofKind (.hasChild index) ∨ relation = .ofKind (.childOf index)) := by
  simp only [resolveWith, notChain] at found
  split at found
  · split at found
    · rename_i index same
      cases found
      exact ⟨index, same, .inl rfl⟩
    · cases found
  · split at found
    · rename_i index same
      cases found
      exact ⟨index, same, .inr rfl⟩
    · cases found
  · cases found
  · cases found

theorem resolve_child_index {index : Int} (read : childIndex? argument = some index) :
    resolver.resolveWith ['<'] argument = .ok (.ofKind (.hasChild index)) ∧
      resolver.resolveWith ['>'] argument = .ok (.ofKind (.childOf index)) := by
  have chains : ChainRelation.ofSymbol? ['<'] = none ∧ ChainRelation.ofSymbol? ['>'] = none := by
    decide
  have plain : PlainRelation.ofSymbol? ['<'] = some .immediatelyDominates ∧
      PlainRelation.ofSymbol? ['>'] = some .immediatelyDominatedBy := by decide
  simp [resolveWith, chains, plain, read]

theorem resolve_with_chain {chain : ChainRelation} (isChain : ChainRelation.ofSymbol? symbol = some chain)
    (found : resolver.resolveWith symbol argument = .ok relation) :
    ∃ parsed, relation.kind = .chain chain parsed ∧ parsed.render = argument := by
  simp only [resolveWith, isChain] at found
  split at found
  · cases found
  · rename_i parsed same
    cases found
    exact ⟨parsed, rfl, ChainArgument.render_of_text same⟩

end Resolver

theorem PlainRelation.symbol_ne_nil (plain : PlainRelation) : plain.symbol ≠ [] := by
  cases plain <;> decide

theorem lexeme_symbol (plain : PlainRelation) (more : Text) :
    lexeme? (plain.symbol ++ ' ' :: more) = some (.operator, plain.symbol) := by
  cases plain <;> rfl

theorem spelling_of_unique {spellings : List Text} {text spelling : Text}
    (inside : spelling ∈ spellings) (begins : spelling <+: text)
    (unique : ∀ other ∈ spellings, other <+: text → other = spelling) :
    spelling? spellings text = some spelling := by
  cases found : spelling? spellings text with
  | none =>
      have none := List.find?_eq_none.1 found spelling inside
      exact absurd (List.isPrefixOf_iff_prefix.2 begins) none
  | some other =>
      obtain ⟨member, beginsToo⟩ := spelling_eq_some found
      rw [unique other member beginsToo]

-- No operator holds a digit, so that one of a single character ends before it.
theorem lexeme_before_digit {c d : Char} (single : [c] ∈ operators) (digit : d.isDigit = true)
    (rest : Text) : lexeme? (c :: d :: rest) = some (.operator, [c]) := by
  have short : ∀ spelling : Text, spelling.any Char.isDigit = false →
      spelling <+: c :: d :: rest → spelling = [] ∨ spelling = [c] := by
    rintro spelling noDigit ⟨more, split⟩
    match spelling with
    | [] => exact .inl rfl
    | [first] => exact .inr (by rw [(List.cons.inj split).1])
    | first :: second :: spelling =>
        have same : second = d := (List.cons.inj (List.cons.inj split).2).1
        simp [same, digit] at noDigit
  have noChain : spelling? chainOperators (c :: d :: rest) = none := by
    have shapes : ∀ spelling ∈ chainOperators,
        spelling.any Char.isDigit = false ∧ spelling.length = 2 := by decide
    refine List.find?_eq_none.2 fun spelling inside begins => ?_
    obtain ⟨noDigit, two⟩ := shapes spelling inside
    rcases short spelling noDigit (List.isPrefixOf_iff_prefix.1 begins) with rfl | rfl <;> cases two
  have operator : spelling? operators (c :: d :: rest) = some [c] := by
    have shapes : ∀ spelling ∈ operators, spelling.any Char.isDigit = false ∧ spelling ≠ [] := by
      decide
    refine spelling_of_unique single ⟨d :: rest, rfl⟩ fun other inside begins => ?_
    obtain ⟨noDigit, nonempty⟩ := shapes other inside
    exact (short other noDigit begins).resolve_left nonempty
  rw [lexeme_eq, noChain, operator]
  rfl

def SpeltRelation (resolver : Resolver) (relation : Relation) (tokens : List Token) : Prop :=
  ∃ phrase : OperationPhrase, phrase.tokens = tokens ∧ phrase.denote resolver = some relation

def Spaced (rest : Text) : Prop := ∃ more, rest = ' ' :: more

namespace Spells

variable {resolver : Resolver} {relation : Relation}

theorem plain {plain : PlainRelation} (found : resolver.resolveBare plain.symbol = .ok relation) :
    Spells plain.symbol Spaced (SpeltRelation resolver relation) := by
  have read : ∀ rest, Spaced rest →
      lexeme? (plain.symbol ++ ([] ++ rest)) = some (.operator, plain.symbol) := by
    rintro rest ⟨more, rfl⟩
    exact lexeme_symbol plain more
  rw [← List.append_nil plain.symbol]
  refine lexeme plain.symbol_ne_nil read fun operator same => ?_
  refine nil ⟨.plain operator none, rfl, ?_⟩
  simp [OperationPhrase.denote, OperationPhrase.operation, Resolver.resolve, same, found,
    Except.toOption]

theorem index {c : Char} {index : Int} (single : [c] ∈ operators) (notMinus : c ≠ '-')
    (minus : ∀ rest, lexeme? (c :: '-' :: rest) = some (.operator, [c, '-']))
    (found : resolver.resolveWith [c] (Text.ofInt index) = .ok relation) :
    Spells (c :: Text.ofInt index) Spaced (SpeltRelation resolver relation) := by
  have apart : ∀ rest, Spaced rest → Boundary ([] ++ rest) := by
    rintro rest ⟨more, rfl⟩
    exact boundary_cons more rfl (by decide)
  have denoted : ∀ (operator : Leaf [.operator]) (number : Leaf [.number]),
      indexed operator.token.text number.token.text = ([c], Text.ofInt index) →
        SpeltRelation resolver relation [operator.token, number.token] := by
    intro operator number same
    refine ⟨.plain operator (some number), rfl, ?_⟩
    simp [OperationPhrase.denote, OperationPhrase.operation, Resolver.resolve, same, found,
      Except.toOption]
  unfold Text.ofInt at denoted ⊢
  split at denoted
  · rename_i negative
    rw [if_pos negative]
    -- The lexer takes the minus sign for a part of the operator.
    change Spells ([c, '-'] ++ Text.ofNat index.natAbs) _ _
    rw [← List.append_nil (Text.ofNat index.natAbs)]
    refine lexeme (List.cons_ne_nil c ['-']) (fun rest _ => minus _) fun operator sameOperator => ?_
    refine number _ apart fun number sameNumber => nil (denoted operator number ?_)
    rw [sameOperator, sameNumber]
    rfl
  · rename_i natural
    have read : ∀ rest, lexeme? ([c] ++ (Text.ofNat index.natAbs ++ [] ++ rest)) =
        some (.operator, [c]) := by
      intro rest
      cases digits : Text.ofNat index.natAbs with
      | nil => exact absurd digits (Text.of_nat_ne_nil _)
      | cons d more =>
          exact lexeme_before_digit single (Text.of_nat_digit (digits ▸ List.mem_cons_self)) _
    rw [if_neg natural]
    change Spells ([c] ++ Text.ofNat index.natAbs) _ _
    rw [← List.append_nil (Text.ofNat index.natAbs)]
    refine lexeme (List.cons_ne_nil c []) (fun rest _ => read rest) fun operator sameOperator => ?_
    refine number _ apart fun number sameNumber => nil (denoted operator number ?_)
    rw [sameOperator, sameNumber]
    simp [indexed, notMinus]

theorem optional_mark_eq {kinds : List TokenKind} (mark : Char) (leaf : Option (Leaf kinds)) :
    optionalMark mark leaf = if leaf.isSome then [mark] else [] := by
  cases leaf <;> rfl

theorem argument_text_eq (argument : ArgumentPhrase) :
    ∃ (negated categoryMatch : Bool) (label : Leaf labelKinds), label.token ∈ argument.tokens ∧
      argument.text = (if negated then ['!'] else []) ++
        ((if categoryMatch then ['@'] else []) ++ label.token.text) := by
  cases argument with
  | enclosed opener negation category label closer =>
      refine ⟨negation.isSome, category.isSome, label, by simp [ArgumentPhrase.tokens], ?_⟩
      simp [ArgumentPhrase.text, optional_mark_eq]
  | unenclosed negation regex =>
      have isLabel : regex.token.kind ∈ labelKinds := by
        rw [regex.kind_eq]
        decide
      refine ⟨negation.isSome, false, ⟨regex.token, isLabel⟩, by simp [ArgumentPhrase.tokens], ?_⟩
      simp [ArgumentPhrase.text, optional_mark_eq]

theorem chain {chain : ChainRelation} {argument : ArgumentPhrase}
    (lexed : ∀ token ∈ argument.tokens, token.Lexed)
    (found : resolver.resolveWith chain.symbol argument.text = .ok relation) :
    Spells (chain.symbol ++ '(' :: (argument.text ++ [')'])) Spaced
      (SpeltRelation resolver relation) := by
  obtain ⟨negated, categoryMatch, label, inside, same⟩ := argument_text_eq argument
  have read : ∀ rest, lexeme? (chain.symbol ++ ('(' :: (argument.text ++ [')']) ++ rest)) =
      some (.chainOperator, chain.symbol) := by
    intro rest
    cases chain <;> rfl
  have apart : ∀ rest, Spaced rest → Boundary ([')'] ++ rest) := fun rest _ =>
    boundary_cons rest rfl (by decide)
  refine lexeme (by cases chain <;> decide) (fun rest _ => read rest) fun operator sameOperator => ?_
  refine mark (by decide : (.leftParen, '(') ∈ marks) (by decide) fun opener => ?_
  rw [same, List.append_assoc, List.append_assoc]
  refine optional (by decide : (.bang, '!') ∈ marks) (by decide) negated fun negation sameNegation => ?_
  refine optional (by decide : (.atSign, '@') ∈ marks) (by decide) categoryMatch
    fun category sameCategory => ?_
  refine Spells.label label (lexed _ inside) apart fun label sameKind sameText => ?_
  refine mark (by decide : (.rightParen, ')') ∈ marks) (by decide) fun closer => nil ?_
  refine ⟨.chain operator (.enclosed opener negation category label closer), rfl, ?_⟩
  have sameArgument : (ArgumentPhrase.enclosed opener negation category label closer).text =
      argument.text := by
    rw [same]
    simp [ArgumentPhrase.text, optional_mark_eq, sameNegation, sameCategory, sameText]
  simp [OperationPhrase.denote, OperationPhrase.operation, Resolver.resolve, sameOperator,
    sameArgument, found, Except.toOption]

theorem operator_not_chain {operator : Text} (inside : operator ∈ operators) (number : Text) :
    ChainRelation.ofSymbol? (indexed operator number).1 = none := by
  have noChain : ∀ symbol ∈ operators, ChainRelation.ofSymbol? symbol = none ∧
      ChainRelation.ofSymbol? symbol.dropLast = none := by decide
  have symbols := noChain operator inside
  unfold indexed
  split
  · exact symbols.2
  · exact symbols.1

theorem of_symbol_chain {symbol : Text} (inside : symbol ∈ chainOperators) :
    ∃ chain, ChainRelation.ofSymbol? symbol = some chain ∧ chain.symbol = symbol := by
  have chains : ∀ symbol ∈ chainOperators,
      (ChainRelation.ofSymbol? symbol).map ChainRelation.symbol = some symbol := by decide
  exact Option.map_eq_some_iff.1 (chains symbol inside)

theorem resolved {phrase : OperationPhrase} (lexed : ∀ token ∈ phrase.tokens, token.Lexed)
    (denoted : phrase.denote resolver = some relation) :
    relation.isRoot = false ∧ Spells relation.render Spaced (SpeltRelation resolver relation) := by
  have found := to_option_eq_some.1 denoted
  cases phrase with
  | plain operator number =>
      cases number with
      | none =>
          obtain ⟨symbol, kind, again⟩ := Resolver.resolve_bare_again found
          simp only [Relation.isRoot, Relation.render, kind, RelationKind.render]
          exact ⟨trivial, plain again⟩
      | some number =>
          obtain ⟨source, read⟩ := lexed operator.token (by simp [OperationPhrase.tokens])
          rw [operator.kind_eq] at read
          have notChain := operator_not_chain (lexeme_read_by read).mem_operators number.token.text
          obtain ⟨child, written, rfl | rfl⟩ := Resolver.resolve_with_index notChain found
          · exact ⟨rfl, index (by decide) (by decide) (fun _ => rfl)
              (Resolver.resolve_child_index (child_index_again written)).1⟩
          · exact ⟨rfl, index (by decide) (by decide) (fun _ => rfl)
              (Resolver.resolve_child_index (child_index_again written)).2⟩
  | chain operator argument =>
      rw [OperationPhrase.tokens, List.forall_mem_cons] at lexed
      obtain ⟨⟨source, read⟩, lexedArgument⟩ := lexed
      rw [operator.kind_eq] at read
      obtain ⟨name, isChain, symbol⟩ := of_symbol_chain (lexeme_read_by read).mem_chain_operators
      obtain ⟨parsed, kind, written⟩ := Resolver.resolve_with_chain isChain found
      have foundAgain : resolver.resolveWith name.symbol argument.text = .ok relation :=
        symbol ▸ found
      have spells := chain lexedArgument foundAgain
      simp only [Relation.isRoot, Relation.render, kind, RelationKind.render, written]
      exact ⟨trivial, by simpa using spells⟩

end Spells

end TreeQuery

import TreeQuery.Proofs.Pattern.Numbers
import TreeQuery.Proofs.Relation.Chain

/- The lexer and the resolver know the same relations. Whatever operator is read from a text, with
   whatever may be written behind it as its argument, the resolver has a relation for the symbol,
   and an argument if the relation needs one. What it can still refuse is the argument. -/
set_option autoImplicit false

namespace TreeQuery

open Grammar

inductive RelationError.Refuses (symbol argument : Text) : RelationError → Prop where
  | unexpected : Refuses symbol argument (.unexpectedArgument symbol argument)
  | index : Refuses symbol argument (.invalidIndex symbol argument)
  | regex (cause : Regex.Error) : Refuses symbol argument (.invalidRegex symbol argument cause)

-- Either there is a relation, or there is an argument and it is refused.
def Resolver.Knows (resolver : Resolver) (symbol : Text) (argument : Option Text) : Prop :=
  ∀ error, resolver.resolve symbol argument = .error error →
    ∃ written, argument = some written ∧ error.Refuses symbol written

theorem RelationError.Refuses.known {symbol argument : Text} {error : RelationError}
    (refuses : error.Refuses symbol argument) (named : Text) :
    error ≠ .unknownRelation named ∧ error ≠ .missingArgument named := by
  cases refuses <;> exact ⟨nofun, nofun⟩

namespace Resolver

variable {resolver : Resolver} {operator number argument : Text}

theorem resolve_operator (resolver : Resolver) (inside : operator ∈ operators) :
    ∃ relation, resolver.resolve operator none = .ok relation := by
  have plain : ∀ operator ∈ operators, ChainRelation.ofSymbol? operator = none ∧
      (PlainRelation.ofSymbol? operator).isSome = true := by decide
  obtain ⟨notChain, isPlain⟩ := plain operator inside
  obtain ⟨relation, named⟩ := Option.isSome_iff_exists.1 isPlain
  simp [resolve, resolveBare, notChain, named]

theorem refusal_eq {inRange : Prop} [Decidable inRange] {kind : RelationKind}
    {refusal error : RelationError}
    (failed : (if inRange then Except.ok kind else .error refusal) = .error error) :
    refusal = error := by
  split at failed
  · cases failed
  · exact Except.error.inj failed

theorem numbered_refuses {error : RelationError}
    (failed : numbered operator number = .error error) :
    error.Refuses (indexed operator number).1 (indexed operator number).2 := by
  unfold numbered at failed
  split at failed
  · exact refusal_eq failed ▸ .index
  · exact refusal_eq failed ▸ .index
  · exact refusal_eq failed ▸ .index
  · exact refusal_eq failed ▸ .index
  · exact Except.error.inj failed ▸ .unexpected

theorem knows_numbered (inside : operator ∈ operators) (isNumber : IsNumber number) :
    resolver.Knows (indexed operator number).1 (some (indexed operator number).2) := by
  intro error failed
  rw [resolve_numbered inside isNumber] at failed
  cases read : numbered operator number with
  | ok kind =>
      rw [read] at failed
      cases failed
  | error cause =>
      rw [read] at failed
      cases failed
      exact ⟨_, rfl, numbered_refuses read⟩

theorem argument_of_text_error {checker : Regex.Checker} {symbol text : Text}
    {error : RelationError} (failed : ChainArgument.ofText checker symbol text = .error error) :
    error.Refuses symbol text ∨ (stripMark '@' (stripMark '!' text).2).2 = [] := by
  unfold ChainArgument.ofText at failed
  simp only at failed
  split at failed
  · cases failed
  · split at failed
    · split at failed
      · cases failed
      · cases failed
        exact .inl (.regex _)
    · split at failed
      · rename_i bare
        exact .inr bare
      · cases failed

theorem argument_body {phrase : ArgumentPhrase} (lexed : phrase.label.Lexed) :
    (stripMark '@' (stripMark '!' phrase.text).2).2 = phrase.label.text := by
  obtain ⟨noBang, noAtSign⟩ := lexed.label_unmarked phrase.label_kind_mem
  have noBangToo : ((if phrase.categoryMatch then ['@'] else []) ++ phrase.label.text).head? ≠
      some '!' := by
    cases phrase.categoryMatch with
    | true => simp
    | false => exact noBang
  rw [phrase.text_eq, strip_mark_marked noBangToo, strip_mark_marked noAtSign]

theorem knows_chain {phrase : ArgumentPhrase} (inside : operator ∈ chainOperators)
    (lexed : phrase.label.Lexed) : resolver.Knows operator (some phrase.text) := by
  intro error failed
  obtain ⟨chain, named, -⟩ := Spells.of_symbol_chain inside
  change resolver.resolveWith operator phrase.text = .error error at failed
  simp only [resolveWith, named] at failed
  cases parses : ChainArgument.ofText resolver.checkRegex operator phrase.text with
  | ok parsed =>
      rw [parses] at failed
      cases failed
  | error cause =>
      rw [parses] at failed
      cases failed
      rcases argument_of_text_error parses with refuses | bare
      · exact ⟨_, rfl, refuses⟩
      · rw [argument_body lexed] at bare
        exact absurd bare lexed.nonempty

theorem knows_operation (resolver : Resolver) {operation : OperationPhrase}
    (lexed : ∀ token ∈ operation.tokens, token.Lexed) :
    resolver.Knows operation.operation.symbol operation.operation.argument := by
  cases operation with
  | plain operator number =>
      obtain ⟨⟨source, read⟩, lexedNumber⟩ := List.forall_mem_cons.1 lexed
      rw [operator.kind_eq] at read
      have inside := (lexeme_read_by read).mem_operators
      cases number with
      | none =>
          intro error failed
          obtain ⟨relation, found⟩ := resolver.resolve_operator inside
          cases found.symm.trans failed
      | some number =>
          have isNumber := (lexedNumber number.token List.mem_cons_self).is_number number.kind_eq
          exact knows_numbered inside isNumber
  | chain operator argument =>
      obtain ⟨⟨source, read⟩, lexedArgument⟩ := List.forall_mem_cons.1 lexed
      rw [operator.kind_eq] at read
      exact knows_chain (lexeme_read_by read).mem_chain_operators
        (lexedArgument argument.label argument.label_mem_tokens)

end Resolver

theorem parse_tokens_relation {resolver : Resolver} {tokens : List Token} {cause : RelationError}
    {place : Position} (refused : parseTokens resolver tokens = .error (.invalidRelation cause place)) :
    ∃ operation : OperationPhrase,
      (∀ token ∈ operation.tokens, token ∈ (TokenStream.ofTokens tokens).upcoming) ∧
        resolver.resolve operation.operation.symbol operation.operation.argument = .error cause := by
  obtain ⟨read, split, ⟨parsed, accepted, -⟩ | ⟨error, failed, halted⟩⟩ :=
    run_tokens_heeds resolver tokens
  · cases accepted.symm.trans refused
  · cases failed.symm.trans refused
    cases halted with
    | elsewhere sound unrelated => exact unrelated.elim
    | unfinished sound unrelated => exact unrelated.elim
    | @relation front operation cause sound failure =>
        refine ⟨operation, ?_, failure⟩
        intro token inside
        rw [split]
        exact List.mem_append_left _ (List.mem_append_right _ inside)

namespace Pattern

theorem compile_relation_refused {resolver : Resolver} {text : Text} {cause : RelationError}
    {place : Position} (refused : compile resolver text = .error (.invalidRelation cause place)) :
    ∃ symbol argument, cause.Refuses symbol argument := by
  obtain ⟨stopped, lexical⟩ | ⟨tokens, tokenized, parses⟩ := compile_refused refused
  · cases lexical
  · obtain ⟨operation, within, failed⟩ := parse_tokens_relation parses
    have lexed : ∀ token ∈ operation.tokens, token.Lexed := fun token inside =>
      ((tokenize_terminated tokenized).2 token (within token inside)).1
    obtain ⟨argument, -, refuses⟩ := resolver.knows_operation lexed _ failed
    exact ⟨_, _, refuses⟩

/-- No pattern is refused because its relation is unknown or lacks an argument. Every operator that
is read from a text resolves by itself, and with whatever number or argument can be written behind it
the resolver knows it: what it may refuse is the argument. -/
theorem compile_relations_known (resolver : Resolver) :
    (∀ text symbol place,
      compile resolver text ≠ .error (.invalidRelation (.unknownRelation symbol) place) ∧
        compile resolver text ≠ .error (.invalidRelation (.missingArgument symbol) place)) ∧
    (∀ operator : Token, operator.Lexed → operator.kind = .operator →
      ∃ relation, resolver.resolve operator.text none = .ok relation) ∧
    ∀ operation : OperationPhrase, (∀ token ∈ operation.tokens, token.Lexed) →
      resolver.Knows operation.operation.symbol operation.operation.argument := by
  refine ⟨fun text symbol place => ⟨fun refused => ?_, fun refused => ?_⟩, ?_,
    fun operation lexed => resolver.knows_operation lexed⟩
  · obtain ⟨_, _, refuses⟩ := compile_relation_refused refused
    exact (refuses.known symbol).1 rfl
  · obtain ⟨_, _, refuses⟩ := compile_relation_refused refused
    exact (refuses.known symbol).2 rfl
  · rintro operator ⟨source, read⟩ isOperator
    rw [isOperator] at read
    exact Resolver.resolve_operator _ (lexeme_read_by read).mem_operators

theorem compile_relations_known_refused :
    let operator : Token := ⟨.operator, "$--".toList, ⟨2, 1, 3⟩⟩
    let number : Token := ⟨.number, ['2'], ⟨5, 1, 6⟩⟩
    let plain : OperationPhrase := .plain ⟨operator, by decide⟩ (some ⟨number, by decide⟩)
    let chain : OperationPhrase := .chain ⟨⟨.chainOperator, ",+".toList, ⟨9, 1, 10⟩⟩, by decide⟩
      (.enclosed ⟨⟨.leftParen, ['('], ⟨11, 1, 12⟩⟩, by decide⟩
        (some ⟨⟨.bang, ['!'], ⟨12, 1, 13⟩⟩, by decide⟩)
        (some ⟨⟨.atSign, ['@'], ⟨13, 1, 14⟩⟩, by decide⟩)
        ⟨⟨.blank, ['_', '_'], ⟨14, 1, 15⟩⟩, by decide⟩
        ⟨⟨.rightParen, [')'], ⟨16, 1, 17⟩⟩, by decide⟩)
    (∀ token ∈ plain.tokens ++ chain.tokens, token.Lexed) ∧
      (∃ relation, Resolver.standard.resolve operator.text none = .ok relation) ∧
      Resolver.standard.Knows "$-".toList (some "-2".toList) ∧
      Resolver.standard.resolve "$-".toList (some "-2".toList) =
        .error (.unexpectedArgument "$-".toList "-2".toList) ∧
      Resolver.standard.Knows ",+".toList (some "!@__".toList) ∧
      ∀ symbol place, compile .standard "S $--2 B ,+(!@__) C".toList ≠
        .error (.invalidRelation (.unknownRelation symbol) place) := by
  intro operator number plain chain
  have lexed : ∀ token ∈ plain.tokens ++ chain.tokens, token.Lexed := by
    have again : ∀ token ∈ plain.tokens ++ chain.tokens,
        lexeme? token.text = some (token.kind, token.text) := by decide
    exact fun token inside => ⟨token.text, again token inside⟩
  obtain ⟨lexedPlain, lexedChain⟩ := List.forall_mem_append.1 lexed
  obtain ⟨compiles, bare, known⟩ := compile_relations_known .standard
  exact ⟨lexed, bare operator (lexedPlain operator List.mem_cons_self) rfl, known plain lexedPlain,
    rfl, known chain lexedChain, fun symbol place => (compiles _ symbol place).1⟩

end Pattern

end TreeQuery

import TreeQuery.Proofs.Grammar.Reads.Level
import TreeQuery.Proofs.Grammar.Takes.Level
import TreeQuery.Proofs.Grammar.Kinds
import TreeQuery.Proofs.Token.Scan
import TreeQuery.Pattern.Basic
import TreeQuery.Pattern.Printer

/- Whole patterns: what is accepted is a word of the grammar with the tree that it
   denotes, and a word of the grammar is never refused for the order of its tokens. -/
set_option autoImplicit false

namespace TreeQuery

theorem TokenStream.of_tokens_last_kind (tokens : List Token) :
    (TokenStream.ofTokens tokens).last.kind = .endOfInput := by
  unfold TokenStream.ofTokens
  cases found : tokens.find? (·.kind = .endOfInput) with
  | none => simp
  | some token => simpa [found] using List.find?_some found

theorem TokenStream.of_tokens_append {body rest : List Token} (unended : Grammar.Unended body) :
    (TokenStream.ofTokens (body ++ rest)).upcoming =
      body ++ rest.takeWhile (·.kind ≠ .endOfInput) := by
  change (body ++ rest).takeWhile _ = _
  rw [List.takeWhile_append_of_pos (by simpa [Grammar.Unended] using unended)]

theorem TokenStream.of_tokens_upcoming {body : List Token} {final : Token}
    (ended : final.kind = .endOfInput) (before : ∀ token ∈ body, token.kind ≠ .endOfInput) :
    (TokenStream.ofTokens (body ++ [final])).upcoming = body := by
  rw [of_tokens_append before]
  simp [ended]

theorem TokenStream.of_tokens_unended (tokens : List Token) :
    Grammar.Unended (TokenStream.ofTokens tokens).upcoming := by
  intro token inside
  have apart := List.all_eq_true.1 List.all_takeWhile token inside
  simpa using apart

namespace Grammar

variable {settings : Settings}

def PatternPhrase.outcome (settings : Settings) (phrase : PatternPhrase) :
    Option (Described × Scope) :=
  nodeOutcome settings false (phrase.denote settings.resolver) Scope.empty

theorem start_at (tokens : List Token) :
    State.At ⟨TokenStream.ofTokens tokens, Scope.empty⟩ (TokenStream.ofTokens tokens).upcoming
      (TokenStream.ofTokens tokens).last Scope.empty := ⟨rfl, rfl, rfl⟩

theorem end_ends {state : State} {upcoming : List Token} {last : Token} {scope : Scope}
    {top : Described} {done : Described → State → Prop} {failed : PatternError → State → Prop}
    (here : state.At upcoming last scope)
    (onEnd : nextKind upcoming last = .endOfInput →
      ∀ after : State, after.scope = scope → done top after)
    (onOther : nextKind upcoming last ≠ .endOfInput → ∀ unexpected after,
      failed (.unexpectedToken unexpected) after) :
    Ends ((Production.consume .endOfInput >>= fun _ => pure top) state) done failed := by
  rw [Ends.bind, Production.consume_ends]
  by_cases wanted : state.stream.isAny [.endOfInput] = true
  · rw [if_pos wanted]
    exact onEnd (by simpa [here.is_any] using wanted) _ here.scope_eq
  · rw [if_neg wanted]
    exact onOther (by simpa [here.is_any] using wanted) _ _

theorem run_tokens_takes (settings : Settings) (tokens : List Token) :
    Ends (runTokens settings tokens)
      (fun top after => ∃ phrase : PatternPhrase,
        phrase.tokens = (TokenStream.ofTokens tokens).upcoming ∧
          phrase.top.nesting ≤ maxNesting ∧ phrase.outcome settings = some (top, after.scope))
      (fun _ _ => True) := by
  have ended := TokenStream.of_tokens_last_kind tokens
  change Ends (wholePattern settings _) _ _
  unfold wholePattern
  rw [Ends.bind]
  refine ((level_takes settings maxNesting).subNode false Relation.root Scope.empty _ _ _ ended
    (start_at tokens)).mono ?_ fun _ _ _ => trivial
  rintro top after ⟨_, rest, names, split, there, inner, rfl, fits, found⟩
  rw [Ends.bind, Production.consume_ends]
  by_cases wanted : after.stream.isAny [.semicolon] = true
  · obtain ⟨terminator, rest, rfl, -⟩ := Takes.front ended there (by decide) wanted
    rw [if_pos wanted]
    refine end_ends there.advance ?_ fun _ _ _ => trivial
    rintro atEnd final rfl
    cases rest with
    | nil => exact ⟨⟨inner, terminator⟩, split.symm, fits, found⟩
    | cons token rest =>
        have inside : token ∈ (TokenStream.ofTokens tokens).upcoming := by simp [split]
        exact absurd atEnd (TokenStream.of_tokens_unended tokens token inside)
  · rw [if_neg wanted]
    trivial

theorem whole_pattern_reads (settings : Settings) (phrase : PatternPhrase) {state : State}
    {last : Token} (ended : last.kind = .endOfInput)
    (here : state.At phrase.tokens last Scope.empty) :
    Ends (wholePattern settings state)
      (fun top after => phrase.top.nesting ≤ maxNesting ∧
        phrase.outcome settings = some (top, after.scope))
      (fun error _ => Excused (phrase.top.nesting ≤ maxNesting) (phrase.outcome settings) error) := by
  unfold wholePattern
  rw [Ends.bind]
  refine ((level_reads settings maxNesting).subNode phrase.top false Relation.root Scope.empty _ _ _
    here (by simp [phrase.terminator.kind_eq, closers])).mono ?_ fun _ _ excused => excused
  rintro top after ⟨names, there, fits, found⟩
  have wanted : after.stream.isAny [.semicolon] = true := by
    simp [there.is_any, phrase.terminator.kind_eq]
  rw [Ends.bind, Production.consume_ends, if_pos wanted]
  refine end_ends there.advance ?_ fun other => absurd ended other
  rintro - final rfl
  exact ⟨fits, found⟩

theorem whole_pattern_ends (settings : Settings) (phrase : PatternPhrase) {state : State}
    {rest : List Token} {last : Token} (here : state.At (phrase.tokens ++ rest) last Scope.empty) :
    Ends (wholePattern settings state) (fun _ _ => nextKind rest last = .endOfInput)
      (fun _ _ => True) := by
  unfold wholePattern
  rw [Ends.bind]
  rw [PatternPhrase.tokens, List.append_assoc] at here
  refine ((level_reads settings maxNesting).subNode phrase.top false Relation.root Scope.empty _ _ _
    here (by simp [phrase.terminator.kind_eq, closers])).mono ?_ fun _ _ _ => trivial
  intro top after found
  obtain ⟨names, there, -⟩ := found
  have wanted : after.stream.isAny [.semicolon] = true := by
    simp [there.is_any, phrase.terminator.kind_eq]
  rw [Ends.bind, Production.consume_ends, if_pos wanted]
  exact end_ends there.advance (fun atEnd _ _ => atEnd) (fun _ _ _ => trivial)

theorem run_tokens_reads (settings : Settings) {tokens : List Token} (phrase : PatternPhrase)
    (same : (TokenStream.ofTokens tokens).upcoming = phrase.tokens) :
    Ends (runTokens settings tokens)
      (fun top after => phrase.top.nesting ≤ maxNesting ∧
        phrase.outcome settings = some (top, after.scope))
      (fun error _ => Excused (phrase.top.nesting ≤ maxNesting) (phrase.outcome settings) error) := by
  have here := start_at tokens
  rw [same] at here
  exact whole_pattern_reads settings phrase (TokenStream.of_tokens_last_kind tokens) here

theorem parse_tokens_with_eq_ok {tokens : List Token} {parsed : Parsed} :
    parseTokensWith settings tokens = .ok parsed ↔ ∃ state,
      runTokens settings tokens = .ok parsed.top state ∧ parsed.names = state.scope.names := by
  unfold parseTokensWith
  cases runTokens settings tokens with
  | ok top state =>
      constructor
      · intro same
        cases same
        exact ⟨state, rfl, rfl⟩
      · intro run
        obtain ⟨_, same, known⟩ := run
        cases same
        change Except.ok (Parsed.mk parsed.top state.scope.names) = _
        rw [← known]
  | error error state => simp

theorem parse_tokens_with_eq_error {tokens : List Token} {error : PatternError} :
    parseTokensWith settings tokens = .error error ↔ ∃ state,
      runTokens settings tokens = .error error state := by
  unfold parseTokensWith
  cases runTokens settings tokens <;> simp

theorem parse_tokens_outcome {tokens : List Token} {parsed : Parsed}
    (accepted : parseTokensWith settings tokens = .ok parsed) :
    ∃ (phrase : PatternPhrase) (names : Scope),
      phrase.tokens = (TokenStream.ofTokens tokens).upcoming ∧ phrase.top.nesting ≤ maxNesting ∧
        phrase.outcome settings = some (parsed.top, names) ∧ parsed.names = names.names := by
  have takes := run_tokens_takes settings tokens
  obtain ⟨state, run, known⟩ := parse_tokens_with_eq_ok.1 accepted
  rw [run] at takes
  obtain ⟨phrase, same, fits, found⟩ := takes
  exact ⟨phrase, state.scope, same, fits, found, known⟩

theorem parse_tokens_accepts {tokens : List Token} {phrase : PatternPhrase} {parsed : Parsed}
    (same : (TokenStream.ofTokens tokens).upcoming = phrase.tokens)
    (accepted : parseTokensWith settings tokens = .ok parsed) :
    phrase.top.nesting ≤ maxNesting ∧
      ∃ names : Scope, phrase.outcome settings = some (parsed.top, names) := by
  have reads := run_tokens_reads settings phrase same
  obtain ⟨state, run, _⟩ := parse_tokens_with_eq_ok.1 accepted
  rw [run] at reads
  exact ⟨reads.1, state.scope, reads.2⟩

-- An accepted list holds no more before its end than the phrase that it starts with.
theorem parse_tokens_all_read {tokens rest : List Token} {phrase : PatternPhrase} {parsed : Parsed}
    (split : (TokenStream.ofTokens tokens).upcoming = phrase.tokens ++ rest)
    (accepted : parseTokensWith settings tokens = .ok parsed) : rest = [] := by
  have here := start_at tokens
  rw [split] at here
  have ends := whole_pattern_ends settings phrase here
  obtain ⟨state, run, -⟩ := parse_tokens_with_eq_ok.1 accepted
  change wholePattern settings _ = _ at run
  rw [run] at ends
  cases rest with
  | nil => rfl
  | cons token rest =>
      have inside : token ∈ (TokenStream.ofTokens tokens).upcoming := by simp [split]
      exact absurd ends (TokenStream.of_tokens_unended tokens token inside)

theorem parse_tokens_upcoming {phrase other : PatternPhrase} {rest : List Token} {parsed : Parsed}
    (accepted : parseTokensWith settings (phrase.tokens ++ rest) = .ok parsed) :
    (TokenStream.ofTokens (other.tokens ++ rest)).upcoming = other.tokens := by
  have unread := parse_tokens_all_read (TokenStream.of_tokens_append phrase.unended) accepted
  rw [TokenStream.of_tokens_append other.unended, unread, List.append_nil]

theorem parse_tokens_denotes {resolver : Resolver} {phrase : PatternPhrase} {final : Token}
    {parsed : Parsed} (ended : final.kind = .endOfInput)
    (accepted : parseTokens resolver (phrase.tokens ++ [final]) = .ok parsed) :
    phrase.denote resolver = some parsed.top := by
  have upcoming := TokenStream.of_tokens_upcoming ended phrase.unended
  obtain ⟨-, names, found⟩ := parse_tokens_accepts upcoming accepted
  exact (outcome_of_eq_some.1 found).1

theorem parse_tokens_of_outcome {tokens : List Token} {phrase : PatternPhrase} {top : Described}
    {names : Scope} (same : (TokenStream.ofTokens tokens).upcoming = phrase.tokens)
    (found : phrase.outcome settings = some (top, names)) :
    parseTokensWith settings tokens = .ok ⟨top, names.names⟩ ∨
      ¬ phrase.top.nesting ≤ maxNesting ∧ ∃ limit position,
        parseTokensWith settings tokens = .error (.nestingTooDeep limit position) := by
  have reads := run_tokens_reads settings phrase same
  rw [found] at reads
  cases run : runTokens settings tokens with
  | ok value state =>
      rw [run] at reads
      cases reads.2
      exact .inl (parse_tokens_with_eq_ok.2 ⟨state, run, rfl⟩)
  | error error state =>
      rw [run] at reads
      cases error with
      | unexpectedToken => exact reads.elim
      | nestingTooDeep limit position =>
          exact .inr ⟨reads, limit, position, parse_tokens_with_eq_error.2 ⟨state, run⟩⟩
      | _ => cases reads

theorem parse_tokens_scope {resolver : Resolver} {tokens : List Token} {parsed : Parsed}
    (accepted : parseTokens resolver tokens = .ok parsed) :
    ∃ names : Scope, parsed.root.scopeBehind true false Scope.empty = some names ∧
      parsed.names = names.names := by
  obtain ⟨phrase, names, -, -, found, same⟩ := parse_tokens_outcome accepted
  exact ⟨names, (outcome_of_eq_some.1 found).2, same⟩

theorem parse_text_eq_ok {resolver : Resolver} {text : Text} {parsed : Parsed} :
    parseText resolver text = .ok parsed ↔
      ∃ tokens, tokenize text = .ok tokens ∧ parseTokens resolver tokens = .ok parsed := by
  unfold parseText
  cases tokenize text with
  | error error => simp
  | ok tokens => simp

theorem parse_text_outcome {resolver : Resolver} {text : Text} {parsed : Parsed}
    (accepted : parseText resolver text = .ok parsed) :
    ∃ (phrase : PatternPhrase) (names : Scope) (final : Token),
      tokenize text = .ok (phrase.tokens ++ [final]) ∧ final.kind = .endOfInput ∧
        (∀ token ∈ phrase.tokens, token.Lexed) ∧
          phrase.outcome ⟨resolver, true⟩ = some (parsed.top, names) ∧
            parsed.names = names.names := by
  obtain ⟨tokens, tokenized, parses⟩ := parse_text_eq_ok.1 accepted
  obtain ⟨body, final, rfl, ended, lexed⟩ := tokenize_lexed tokenized
  obtain ⟨phrase, names, read, -, found, declared⟩ := parse_tokens_outcome parses
  rw [TokenStream.of_tokens_upcoming ended fun token inside => (lexed token inside).kind_ne_end]
    at read
  subst read
  exact ⟨phrase, names, final, tokenized, ended, lexed, found, declared⟩

theorem compile_eq_parsed {resolver : Resolver} {text : Text} {pattern : Pattern} :
    Pattern.compile resolver text = .ok pattern ↔
      ∃ parsed, parseText resolver (Pattern.terminated text) = .ok parsed ∧
        ⟨parsed.root, parsed.names, text, resolver⟩ = pattern := by
  unfold Pattern.compile
  cases parseText resolver (Pattern.terminated text) <;> simp

/-- A list of tokens that ends in the end of the input and holds no other: what is accepted
is a word of the grammar and gives the tree that the word denotes, by whichever phrase it is
read, and a word of the grammar is never refused for a token that was not expected. -/
theorem parse_tokens_derives (resolver : Resolver) (body : List Token) (final : Token)
    (ended : final.kind = .endOfInput) (before : ∀ token ∈ body, token.kind ≠ .endOfInput) :
    (∀ parsed, parseTokens resolver (body ++ [final]) = .ok parsed →
      Derives (body.map Token.kind) ∧
        (∃ phrase : PatternPhrase, phrase.tokens = body) ∧
          ∀ phrase : PatternPhrase, phrase.tokens = body →
            (phrase.denote resolver).map Described.toNode = some parsed.root) ∧
    (Derives (body.map Token.kind) →
      ∀ unexpected, parseTokens resolver (body ++ [final]) ≠ .error (.unexpectedToken unexpected)) := by
  have upcoming := TokenStream.of_tokens_upcoming ended before
  constructor
  · intro parsed accepted
    obtain ⟨phrase, names, same, -⟩ := parse_tokens_outcome accepted
    have spelt : ∃ phrase : PatternPhrase, phrase.tokens = body := ⟨phrase, same.trans upcoming⟩
    refine ⟨derives_iff.2 spelt, spelt, ?_⟩
    intro other spelt
    have reads := run_tokens_reads ⟨resolver, true⟩ other (upcoming.trans spelt.symm)
    unfold parseTokens parseTokensWith at accepted
    cases run : runTokens ⟨resolver, true⟩ (body ++ [final]) with
    | error error state =>
        rw [run] at accepted
        cases accepted
    | ok top state =>
        rw [run] at accepted reads
        cases accepted
        exact congrArg (Option.map Described.toNode) (outcome_of_eq_some.1 reads.2).1
  · intro derived unexpected refused
    obtain ⟨phrase, spelt⟩ := derives_iff.1 derived
    have reads := run_tokens_reads ⟨resolver, true⟩ phrase (upcoming.trans spelt.symm)
    unfold parseTokens parseTokensWith at refused
    cases run : runTokens ⟨resolver, true⟩ (body ++ [final]) with
    | error error state =>
        rw [run] at refused reads
        cases refused
        exact reads
    | ok top state =>
        rw [run] at refused
        cases refused

-- The pattern `(S=s < A) ![< B | ?< C];`.
theorem parse_tokens_derives_group :
    let below (label : String) : Description :=
      .plain (.ofKind (.plain .immediatelyDominates)) (.identifier label.toList)
    ∃ (phrase : PatternPhrase) (parsed : Parsed),
      phrase.tokens.map Token.text = ["(", "S", "=", "s", "<", "A", ")", "!", "[", "<", "B", "|",
        "?", "<", "C", "]", ";"].map String.toList ∧
      phrase.denote .standard = some
        ⟨{ Description.plain .root (.identifier "S".toList) with capture := some "s".toList },
          some (.coordination ⟨true, false, false⟩ [.described (below "A") none,
            .coordination ⟨false, true, false⟩ [.described (below "B") none,
              .described { below "C" with optional := true } none]])⟩ ∧
      parseTokens .standard (phrase.tokens ++ [⟨.endOfInput, [], .nowhere⟩]) = .ok parsed ∧
      Derives (phrase.tokens.map Token.kind) ∧
      (phrase.denote .standard).map Described.toNode = some parsed.root ∧
      ∀ unexpected, parseTokens .standard (phrase.tokens ++ [⟨.endOfInput, [], .nowhere⟩]) ≠
        .error (.unexpectedToken unexpected) := by
  intro below
  let group : DisjunctionPhrase := .of (.of (.plain (.child "B")) .nil)
    (.cons (.word .pipe "|") (.of (.optional (.word .question "?") (.child "C")) .nil) .nil)
  let inner : SubNodePhrase :=
    .above (.captured "S" "s") (.of (.of (.plain (.child "A")) .nil) .nil)
  let phrase : PatternPhrase :=
    ⟨.above (.enclosed (.word .leftParen "(") inner (.word .rightParen ")"))
      (.of (.of (.negated (.word .bang "!")
        (.group (.word .leftBracket "[") group (.word .rightBracket "]"))) .nil) .nil),
      .word .semicolon ";"⟩
  have accepted : (parseTokens .standard
      (phrase.tokens ++ [⟨.endOfInput, [], .nowhere⟩])).toOption.isSome := by decide +kernel
  obtain ⟨parsed, found⟩ := Option.isSome_iff_exists.1 accepted
  have parses := to_option_eq_some.1 found
  obtain ⟨whenAccepted, whenDerived⟩ :=
    parse_tokens_derives .standard phrase.tokens ⟨.endOfInput, [], .nowhere⟩ rfl phrase.unended
  obtain ⟨derived, -, denoted⟩ := whenAccepted parsed parses
  exact ⟨phrase, parsed, rfl, rfl, parses, derived, denoted phrase rfl, whenDerived derived⟩

end Grammar

end TreeQuery

import TreeQuery.Proofs.Token.Layout
import TreeQuery.Proofs.Token.Lookahead
import TreeQuery.Regex.Basic

/- Regexes written between slashes. A slash of the regex is written behind a backslash. What
   cannot be written so is a regex with a backslash at its end, for it would take the closing
   slash to itself. -/
set_option autoImplicit false

namespace TreeQuery

namespace Regex

def escape : Text → Text
  | [] => []
  | c :: rest => if c = '/' then '\\' :: '/' :: escape rest else c :: escape rest

def literal (pattern : Text) : Text := '/' :: (escape pattern ++ ['/'])

structure Writable (pattern : Text) : Prop where
  nonempty : pattern ≠ []
  oneLine : ∀ c ∈ pattern, c ≠ '\n' ∧ c ≠ '\r'
  closed : pattern.getLast? ≠ some '\\'

theorem escape_slash (rest : Text) : escape ('/' :: rest) = '\\' :: '/' :: escape rest := rfl

theorem escape_plain {c : Char} (apart : c ≠ '/') (rest : Text) :
    escape (c :: rest) = c :: escape rest := if_neg apart

theorem escape_opens {pattern rest : Text} (apart : pattern = [] → rest.head? ≠ some '/') :
    (escape pattern ++ rest).head? ≠ some '/' := by
  cases pattern with
  | nil => exact apart rfl
  | cons c pattern =>
      by_cases slash : c = '/'
      · subst slash
        simp [escape_slash]
      · simpa [escape_plain slash] using slash

theorem unescape_cons {c : Char} {rest : Text} (plain : c = '\\' → rest.head? ≠ some '/') :
    unescape (c :: rest) = c :: unescape rest := by
  rw [unescape]
  rintro more rfl rfl
  exact plain rfl rfl

theorem unescape_escape (pattern : Text) : unescape (escape pattern) = pattern := by
  induction pattern with
  | nil => rfl
  | cons c pattern ih =>
      by_cases slash : c = '/'
      · subst slash
        rw [escape_slash, unescape, ih]
      · have opens : (escape pattern ++ []).head? ≠ some '/' := escape_opens fun _ => by simp
        rw [List.append_nil] at opens
        rw [escape_plain slash, unescape_cons fun _ => opens, ih]

theorem of_literal_literal (checker : Checker) (pattern : Text) :
    ofLiteral checker (literal pattern) = (checker pattern).map (⟨escape pattern, ·⟩) := by
  have body : literalBody (literal pattern) = escape pattern := by simp [literalBody, literal]
  rw [ofLiteral, body, ofSource, unescape_escape]
  cases checker pattern <;> rfl

end Regex

open Regex

theorem regex_tail_slash (rest : Text) : regexTail? ('\\' :: '/' :: rest) =
    (regexTail? rest).map fun tail => '\\' :: '/' :: tail := rfl

theorem regex_tail_escape {pattern : Text} (oneLine : ∀ c ∈ pattern, c ≠ '\n' ∧ c ≠ '\r')
    (closed : pattern.getLast? ≠ some '\\') :
    regexTail? (escape pattern ++ ['/']) = some (escape pattern ++ ['/']) := by
  induction pattern with
  | nil => rfl
  | cons c pattern ih =>
      obtain ⟨sameLine, later⟩ := List.forall_mem_cons.1 oneLine
      have read := ih later fun last => closed (by rw [List.getLast?_cons, last]; rfl)
      by_cases slash : c = '/'
      · subst slash
        rw [escape_slash, List.cons_append, List.cons_append, regex_tail_slash, read]
        rfl
      · have plain : c = '\\' → (escape pattern ++ ['/']).head? ≠ some '/' := by
          rintro rfl
          refine escape_opens fun last => absurd ?_ closed
          rw [last]
          rfl
        rw [escape_plain slash, List.cons_append, regex_tail_cons plain, if_neg slash,
          if_neg (not_or.2 sameLine), read]
        rfl

-- Behind a backslash at the end of the pattern, the closing slash closes nothing.
theorem regex_tail_unclosed {pattern : Text} (unclosed : pattern.getLast? = some '\\') :
    regexTail? (escape pattern ++ ['/']) = none := by
  induction pattern with
  | nil => cases unclosed
  | cons c pattern ih =>
      cases pattern with
      | nil =>
          cases unclosed
          rfl
      | cons second pattern =>
          have unread := ih (by simpa using unclosed)
          by_cases slash : c = '/'
          · subst slash
            rw [escape_slash, List.cons_append, List.cons_append, regex_tail_slash, unread]
            rfl
          · have plain : c = '\\' → (escape (second :: pattern) ++ ['/']).head? ≠ some '/' :=
              fun _ => escape_opens fun none => absurd none (List.cons_ne_nil _ _)
            rw [escape_plain slash, List.cons_append, regex_tail_cons plain, if_neg slash, unread]
            exact ite_self _

theorem regex_tail_escaped {text tail : Text} (found : regexTail? text = some tail) :
    ∃ pattern, tail = escape pattern ++ ['/'] ∧ (∀ c ∈ pattern, c ≠ '\n' ∧ c ≠ '\r') ∧
      pattern.getLast? ≠ some '\\' := by
  fun_induction regexTail? text generalizing tail with
  | case1 => cases found
  | case2 rest ih =>
      obtain ⟨inner, behind, rfl⟩ := Option.map_eq_some_iff.1 found
      obtain ⟨pattern, rfl, oneLine, closed⟩ := ih behind
      refine ⟨'/' :: pattern, rfl, List.forall_mem_cons.2 ⟨by decide, oneLine⟩, ?_⟩
      cases pattern with
      | nil => decide
      | cons second pattern => simpa using closed
  | case3 =>
      cases found
      exact ⟨[], rfl, List.forall_mem_nil _, by decide⟩
  | case4 => cases found
  | case5 c rest notEscape notSlash sameLine ih =>
      obtain ⟨inner, behind, rfl⟩ := Option.map_eq_some_iff.1 found
      obtain ⟨pattern, rfl, oneLine, closed⟩ := ih behind
      refine ⟨c :: pattern, by rw [escape_plain notSlash]; rfl,
        List.forall_mem_cons.2 ⟨not_or.1 sameLine, oneLine⟩, ?_⟩
      cases pattern with
      | nil =>
          obtain ⟨back, rfl⟩ := regex_tail_prefix behind
          intro last
          cases last
          exact notEscape back rfl rfl
      | cons second pattern => simpa using closed

theorem regex_lexeme_literal {text lexeme : Text} (found : regexLexeme? text = some lexeme) :
    ∃ pattern, Writable pattern ∧ lexeme = literal pattern := by
  unfold regexLexeme? at found
  split at found
  · rename_i c rest
    split at found
    · cases found
    · rename_i notSlash
      obtain ⟨tail, read, rfl⟩ := Option.map_eq_some_iff.1 found
      obtain ⟨pattern, rfl, oneLine, closed⟩ := regex_tail_escaped read
      refine ⟨pattern, ⟨?_, oneLine, closed⟩, rfl⟩
      rintro rfl
      obtain ⟨back, split⟩ := regex_tail_prefix read
      exact notSlash (List.cons.inj split).1.symm
  · cases found

theorem ReadBy.is_literal {text lexeme : Text} (read : ReadBy text .regex lexeme) :
    ∃ pattern, Writable pattern ∧ lexeme = literal pattern := by
  cases read with
  | regex read => exact regex_lexeme_literal read
  | mark inside _ => simp [marks] at inside

theorem lexeme_literal {pattern : Text} (nonempty : pattern ≠ []) :
    lexeme? (literal pattern) =
      ((regexTail? (escape pattern ++ ['/'])).map ('/' :: ·)).map (TokenKind.regex, ·) := by
  have regex : regexLexeme? (literal pattern) =
      (regexTail? (escape pattern ++ ['/'])).map ('/' :: ·) := by
    have opens : (escape pattern ++ ['/']).head? ≠ some '/' :=
      escape_opens fun none => absurd none nonempty
    rw [literal]
    cases body : escape pattern ++ ['/'] with
    | nil => simp at body
    | cons c rest =>
        rw [body] at opens
        exact if_neg fun slash => opens (congrArg some slash)
  have noMark : markLexeme? (literal pattern) = none := rfl
  rw [lexeme_of_symbol rfl, regex, noMark, Option.or_none]
  rfl

/-- Every regex on one line that does not end in a backslash has a literal, and the literal is
one token from which the same regex is handed to be checked. With a backslash at its end there is
no token where the literal starts. No other regex is handed on from a token of a text. -/
theorem tokenize_regex_literal :
    (∀ pattern : Text, pattern ≠ [] → (∀ c ∈ pattern, c ≠ '\n' ∧ c ≠ '\r') →
      (pattern.getLast? ≠ some '\\' →
        tokenize (literal pattern) =
            .ok [⟨.regex, literal pattern, .start⟩, Token.ending (literal pattern)] ∧
          ∀ checker, ofLiteral checker (literal pattern) =
            (checker pattern).map (⟨escape pattern, ·⟩)) ∧
      (pattern.getLast? = some '\\' → ∃ error,
        tokenize (literal pattern) = .error error ∧ error.position.offset = 0)) ∧
    ∀ (text : Text) (tokens : List Token), tokenize text = .ok tokens →
      ∀ token ∈ tokens, token.kind = .regex → ∃ pattern, Writable pattern ∧
        token.text = literal pattern ∧
          ∀ checker, ofLiteral checker token.text = (checker pattern).map (⟨escape pattern, ·⟩) := by
  refine ⟨fun pattern nonempty oneLine => ⟨fun closed => ⟨?_, ?_⟩, fun unclosed => ?_⟩, ?_⟩
  · have read : lexeme? (literal pattern ++ []) = some (.regex, literal pattern) := by
      rw [List.append_nil, lexeme_literal nonempty, regex_tail_escape oneLine closed]
      rfl
    have scanned := scan_lexeme .start read
    rw [← literal, List.append_nil] at scanned
    rw [tokenize_eq_ok, scanned, Token.ending_eq]
    rfl
  · exact fun checker => of_literal_literal checker pattern
  · have unread : lexeme? (literal pattern) = none := by
      rw [lexeme_literal nonempty, regex_tail_unclosed unclosed]
      rfl
    have noGap : ¬ isGap '/' = true := by decide
    have stopped : scan 0 .start (literal pattern) = .error .start := by
      rw [literal] at unread ⊢
      rw [scan, if_neg noGap, unread]
    exact ⟨_, tokenize_eq_error.2 ⟨_, stopped, rfl⟩, rfl⟩
  · intro text tokens tokenized token inside regex
    obtain ⟨body, final, rfl, ended, lexed⟩ := tokenize_lexed tokenized
    rcases List.mem_append.1 inside with inside | last
    · obtain ⟨source, read⟩ := lexed token inside
      rw [regex] at read
      obtain ⟨pattern, writable, same⟩ := (lexeme_read_by read).is_literal
      exact ⟨pattern, writable, same, fun checker => same ▸ of_literal_literal checker pattern⟩
    · rw [List.mem_singleton.1 last, ended] at regex
      cases regex

-- A backslash in front of a slash, both of the regex; a backslash at the end; a literal among
-- other tokens.
theorem tokenize_regex_literal_backslashes :
    let closed := ['\\', '/', 'b']
    let unclosed := ['a', '\\']
    closed ≠ [] ∧ (∀ c ∈ closed, c ≠ '\n' ∧ c ≠ '\r') ∧ closed.getLast? ≠ some '\\' ∧
      literal closed = "/\\\\/b/".toList ∧
      tokenize (literal closed) =
        .ok [⟨.regex, literal closed, .start⟩, Token.ending (literal closed)] ∧
      (∀ checker, ofLiteral checker (literal closed) = (checker closed).map (⟨escape closed, ·⟩)) ∧
    unclosed ≠ [] ∧ (∀ c ∈ unclosed, c ≠ '\n' ∧ c ≠ '\r') ∧ unclosed.getLast? = some '\\' ∧
      literal unclosed = "/a\\/".toList ∧
      (∃ error, tokenize (literal unclosed) = .error error ∧ error.position.offset = 0) ∧
    ∃ tokens token, tokenize "é< /a\\//;".toList = .ok tokens ∧ token ∈ tokens ∧
      token.kind = .regex ∧ ∃ pattern, Writable pattern ∧ token.text = literal pattern := by
  intro closed unclosed
  have oneLine : ∀ c ∈ closed, c ≠ '\n' ∧ c ≠ '\r' := by simp [closed]
  have oneLineToo : ∀ c ∈ unclosed, c ≠ '\n' ∧ c ≠ '\r' := by simp [unclosed]
  obtain ⟨written, checked⟩ := (tokenize_regex_literal.1 closed (by decide) oneLine).1 (by decide)
  have stopped := (tokenize_regex_literal.1 unclosed (by decide) oneLineToo).2 rfl
  let tokens : List Token := [⟨.identifier, ['é'], ⟨0, 1, 1⟩⟩, ⟨.operator, ['<'], ⟨2, 1, 2⟩⟩,
    ⟨.regex, "/a\\//".toList, ⟨4, 1, 4⟩⟩, ⟨.semicolon, [';'], ⟨9, 1, 9⟩⟩,
    ⟨.endOfInput, [], ⟨10, 1, 10⟩⟩]
  have tokenized : tokenize "é< /a\\//;".toList = .ok tokens := by decide +kernel
  have inside : ⟨.regex, "/a\\//".toList, ⟨4, 1, 4⟩⟩ ∈ tokens := by simp [tokens]
  obtain ⟨pattern, writable, same, -⟩ :=
    tokenize_regex_literal.2 _ tokens tokenized _ inside rfl
  exact ⟨by decide, oneLine, by decide, rfl, written, checked, by decide, oneLineToo, rfl, rfl,
    stopped, tokens, _, tokenized, inside, rfl, pattern, writable, same⟩

end TreeQuery

import Mathlib.Data.List.Basic
import TreeQuery.Proofs.Grammar.Derivation
import TreeQuery.Proofs.Token.Layout

/- The terminator of a text. It is put behind a text that has none, and there or in the text
   itself it is always a token of its own. So every token of a text with its terminator
   stands in the text, but for a terminator that was put behind it. -/
set_option autoImplicit false

namespace TreeQuery

theorem Text.drop_end_while_append {p : Char → Bool} {c : Char} {front behind : Text}
    (stays : ¬ p c = true) (drops : ∀ d ∈ behind, p d = true) :
    dropEndWhile p (front ++ c :: behind) = front ++ [c] := by
  have reversed : ∀ d ∈ behind.reverse, p d = true := fun d inside =>
    drops d (List.mem_reverse.1 inside)
  rw [dropEndWhile, List.reverse_append, List.reverse_cons, List.append_assoc,
    List.dropWhile_append_of_pos reversed, List.singleton_append,
    List.dropWhile_cons_of_neg stays, List.reverse_cons, List.reverse_reverse]

theorem Text.trim_end_append (text : Text) :
    ∃ blanks, text = text.trimEnd ++ blanks ∧ ∀ c ∈ blanks, isBlank c = true := by
  refine ⟨(text.reverse.takeWhile isBlank).reverse, ?_, ?_⟩
  · unfold trimEnd dropEndWhile
    rw [← List.reverse_append, List.takeWhile_append_dropWhile, List.reverse_reverse]
  · intro c inside
    exact List.all_eq_true.1 List.all_takeWhile c (List.mem_reverse.1 inside)

theorem Text.trim_end_terminator {text : Text} : text.trimEnd.getLast? = some ';' ↔
    ∃ before blanks, text = before ++ ';' :: blanks ∧ ∀ c ∈ blanks, isBlank c = true := by
  constructor
  · intro ends
    obtain ⟨blanks, split, blank⟩ := text.trim_end_append
    refine ⟨text.trimEnd.dropLast, blanks, ?_, blank⟩
    rw [← List.singleton_append, ← List.append_assoc, List.dropLast_append_getLast? ';' ends]
    exact split
  · rintro ⟨before, blanks, rfl, blank⟩
    rw [trimEnd, drop_end_while_append (by decide) blank, List.getLast?_concat]

theorem Pattern.terminated_split (text : Text) :
    ∃ before blanks, terminated text = before ++ ';' :: blanks ∧
      ∀ c ∈ blanks, isBlank c = true := by
  unfold terminated
  split
  · rename_i ends
    exact Text.trim_end_terminator.1 ends
  · exact ⟨text, [], rfl, List.forall_mem_nil _⟩

theorem slash_not_blank {blanks : Text} (blank : ∀ c ∈ blanks, isBlank c = true) :
    '/' ∉ blanks := fun inside => absurd (blank '/' inside) (by decide)

theorem identifier_tail_chars {text : Text} {c : Char} (inside : c ∈ identifierTail text) :
    isNameChar c = true ∨ c = '|' := by
  fun_induction identifierTail text with
  | case1 => cases inside
  | case2 rest _ ih =>
      obtain rfl | further := List.mem_cons.1 inside
      · exact .inr rfl
      · exact ih further
  | case3 => cases inside
  | case4 first rest _ name ih =>
      obtain rfl | further := List.mem_cons.1 inside
      · exact .inl name
      · exact ih further
  | case5 => cases inside

-- A semicolon with no slash behind it belongs to no longer lexeme.
theorem ReadBy.terminator {text lexeme before behind : Text} {kind : TokenKind}
    (read : ReadBy text kind lexeme) (split : lexeme = before ++ ';' :: behind)
    (noSlash : '/' ∉ behind) : kind = .semicolon ∧ lexeme = [';'] := by
  have inside : ';' ∈ lexeme := by simp [split]
  cases read with
  | chainOperator read =>
      have apart : ∀ spelling ∈ chainOperators, ';' ∉ spelling := by decide
      exact absurd inside (apart lexeme (spelling_eq_some read).1)
  | operator read =>
      have apart : ∀ spelling ∈ operators, ';' ∉ spelling := by decide
      exact absurd inside (apart lexeme (spelling_eq_some read).1)
  | regex read =>
      obtain ⟨body, opened, closed⟩ := (regex_lexeme_eq_some read).2.opened
      have last : (';' :: behind).getLast? = some '/' := by
        rw [← List.getLast?_append_cons before, ← split, opened, List.getLast?_cons, closed]
        rfl
      obtain same | further := List.mem_cons.1 (List.mem_of_getLast? last)
      · cases same
      · exact absurd further noSlash
  | number read =>
      simp only [numberLexeme?, Option.ite_none_left_eq_some, Option.some.injEq] at read
      rw [← read.2] at inside
      have digit := List.all_eq_true.1 List.all_takeWhile ';' inside
      cases digit
  | blank read =>
      rw [(blank_lexeme_eq_some read).2] at inside
      exact absurd inside (by decide)
  | identifier read =>
      unfold identifierLexeme? at read
      split at read
      · cases read
        exact absurd (identifier_tail_chars inside) (by decide)
      · cases read
  | mark named begins =>
      have alone : ∀ pair ∈ marks, pair.2 = ';' → pair.1 = .semicolon := by decide
      have same := List.mem_singleton.1 inside
      exact ⟨alone _ named same.symm, by rw [same]⟩

theorem Layout.terminator {front text : Text} {tokens : List Token}
    (layout : Layout front text tokens) {before behind : Text}
    (split : text = before ++ ';' :: behind) (noSlash : '/' ∉ behind) :
    ∃ ahead token later, tokens = ahead ++ token :: later ∧ token.kind = .semicolon ∧
      ∃ passed, Layout passed behind later := by
  induction layout generalizing before with
  | ending gap =>
      have noGap := gap ';' (by simp [split])
      cases noGap
  | @token front gap word rest kind tokens noTokens read others ih =>
      obtain ⟨inner, inGap, -⟩ | ⟨between, _, same⟩ := append_split split
      · cases noTokens ';' (by simp [inGap])
      -- The semicolon is in the word or behind it.
      obtain ⟨inner, inWord, rfl⟩ | ⟨before, -, later⟩ := append_split same
      · have terminator := (lexeme_read_by read).terminator inWord fun member =>
          noSlash (List.mem_append_left _ member)
        have ends : inner = [] := by
          have length := congrArg List.length (inWord.symm.trans terminator.2)
          simp only [List.length_append, List.length_cons, List.length_nil] at length
          exact List.eq_nil_of_length_eq_zero (by omega)
        subst ends
        exact ⟨[], _, tokens, rfl, terminator.1, _, others⟩
      · obtain ⟨ahead, token, behind, rfl, found⟩ := ih later
        exact ⟨_ :: ahead, token, behind, rfl, found⟩

theorem scan_stops {pending : Nat} {here place : Position} {front text : Text}
    (reached : here = .afterAll .start front) (stopped : scan pending here text = .error place) :
    ∃ before behind, text = before ++ behind ∧ lexeme? behind = none ∧ behind ≠ [] ∧
      place = .afterAll .start (front ++ before) := by
  fun_induction scan pending here text generalizing front with
  | case1 => cases stopped
  | case2 pending here c rest ih =>
      obtain ⟨before, behind, rfl, noToken, wide, place⟩ :=
        ih (here.after_reached reached c) stopped
      exact ⟨c :: before, behind, rfl, noToken, wide, by simpa using place⟩
  | case3 here c rest blank ih =>
      obtain ⟨before, behind, rfl, noToken, wide, place⟩ :=
        ih (here.after_reached reached c) stopped
      exact ⟨c :: before, behind, rfl, noToken, wide, by simpa using place⟩
  | case4 here c rest _ noToken =>
      cases stopped
      exact ⟨[], c :: rest, rfl, noToken, List.cons_ne_nil _ _, by rw [List.append_nil, reached]⟩
  | case5 here c rest _ kind lexeme _ place scannedRest ih =>
      cases stopped
      obtain ⟨before, behind, rfl, noToken, wide, place⟩ :=
        ih (here.after_reached reached c) scannedRest
      exact ⟨c :: before, behind, rfl, noToken, wide, by simpa using place⟩
  | case6 => cases stopped

theorem Pattern.terminated_behind {text before behind : Text}
    (split : terminated text = before ++ behind) (wide : behind ≠ []) :
    ∃ rest, text = before ++ rest ∧ (behind = rest ∨ behind = rest ++ [';']) := by
  unfold terminated at split
  split at split
  · exact ⟨behind, split, .inl rfl⟩
  · obtain ⟨rest, last, rfl⟩ := (List.eq_nil_or_concat' behind).resolve_left wide
    rw [← List.append_assoc] at split
    obtain ⟨same, lastSame⟩ := List.append_inj' split rfl
    cases lastSame
    exact ⟨rest, same, .inr rfl⟩

-- The token is at a place of the text, and is what the text goes on with unless it is a
-- terminator that the text does without.
def Token.StandsIn (text : Text) (token : Token) : Prop :=
  ∃ front rest, text = front ++ rest ∧ token.position = Position.start.afterAll front ∧
    (token.text <+: rest ∨ rest = [] ∧ token.kind = .semicolon ∧ token.text = [';'])

theorem Token.PlacedIn.stands_in {text : Text} {token : Token}
    (placed : token.PlacedIn (Pattern.terminated text)) (lexed : token.Lexed) :
    token.StandsIn text := by
  obtain ⟨before, back, split, place⟩ := placed
  obtain ⟨whole, read⟩ := lexed
  have readBy := lexeme_read_by read
  have wide : token.text ++ back ≠ [] := fun none =>
    readBy.nonempty (List.append_eq_nil_iff.1 none).1
  obtain ⟨rest, same, within | cut⟩ := Pattern.terminated_behind split wide
  · exact ⟨before, rest, same, place, .inl ⟨back, within⟩⟩
  · refine ⟨before, rest, same, place, ?_⟩
    obtain rfl | ⟨inner, last, rfl⟩ := List.eq_nil_or_concat' back
    · rw [List.append_nil] at cut
      have terminator := readBy.terminator cut List.not_mem_nil
      rw [terminator.2] at cut
      exact .inr ⟨(List.append_inj' cut rfl).1.symm, terminator⟩
    · rw [← List.append_assoc] at cut
      exact .inl ⟨inner, (List.append_inj' cut rfl).1⟩

theorem tokenize_terminated {text : Text} {tokens : List Token}
    (tokenized : tokenize (Pattern.terminated text) = .ok tokens) :
    (∃ token ∈ (TokenStream.ofTokens tokens).upcoming, token.kind = .semicolon) ∧
      ∀ token ∈ (TokenStream.ofTokens tokens).upcoming, token.Lexed ∧ token.StandsIn text := by
  have layout := tokenize_layout tokenized
  obtain ⟨body, final, rfl, ended, lexed⟩ := tokenize_lexed tokenized
  rw [TokenStream.of_tokens_upcoming ended fun token inside => (lexed token inside).kind_ne_end]
  constructor
  · obtain ⟨before, blanks, split, blank⟩ := Pattern.terminated_split text
    obtain ⟨ahead, token, later, found, semicolon, -⟩ :=
      layout.terminator split (slash_not_blank blank)
    have inside : token ∈ body ++ [final] := by simp [found]
    refine ⟨token, ?_, semicolon⟩
    obtain inBody | atEnd := List.mem_append.1 inside
    · exact inBody
    · rw [List.mem_singleton.1 atEnd, ended] at semicolon
      cases semicolon
  · intro token inside
    have placed := layout.placed token (List.mem_append_left _ inside)
    exact ⟨lexed token inside, placed.stands_in (lexed token inside)⟩

theorem tokenize_terminated_stops {text : Text} {error : LexicalError}
    (stopped : tokenize (Pattern.terminated text) = .error error) :
    ∃ front rest, text = front ++ rest ∧ rest ≠ [] ∧
      error.position = Position.start.afterAll front := by
  obtain ⟨place, scanned, rfl⟩ := tokenize_eq_error.1 stopped
  obtain ⟨before, behind, split, noToken, wide, reached⟩ :=
    scan_stops (Position.after_all_nil _).symm scanned
  obtain ⟨rest, same, cut⟩ := Pattern.terminated_behind split wide
  refine ⟨before, rest, same, ?_, reached⟩
  rintro rfl
  obtain rfl | rfl := cut
  · exact wide rfl
  · cases noToken

end TreeQuery

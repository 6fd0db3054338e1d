import TreeQuery.Proofs.Errors.Level
import TreeQuery.Proofs.Token.Terminator

/- Where the errors of a text are. The text is read with its terminator, but every error has a
   place in the text itself, and what stands there is what the error complains about. -/
set_option autoImplicit false

namespace TreeQuery

-- What the text goes on with at the place of an error. Of the tokens only a terminator that
-- the text does without is not in it, and it is where the text ends.
def PatternError.Begins (rest : Text) : PatternError → Prop
  | unexpectedToken unexpected => unexpected.found.kind ≠ .endOfInput ∧
      (unexpected.found.text <+: rest ∨
        rest = [] ∧ unexpected.found.kind = .semicolon ∧ unexpected.found.text = [';'])
  | duplicateCapture name _ => name ≠ [] ∧ name <+: rest
  | undeclaredReference name _ => name ≠ [] ∧ name <+: rest
  | captureUnderNegation name _ => name ≠ [] ∧ name <+: rest
  | lexical _ => rest ≠ []
  | invalidRegex _ _ _ => ['/'] <+: rest
  | invalidGroupCapture index _ _ => index ≠ [] ∧ index <+: rest
  | nestingTooDeep _ _ => ['('] <+: rest ∨ ['['] <+: rest ∨
      ∃ operator ∈ operators ++ chainOperators, operator <+: rest
  | invalidRelation cause _ => cause.symbol ≠ [] ∧ cause.symbol <+: rest

/-- The error is between two characters of the text or at an end of it, its line and its column
are those of its offset, and the text goes on from there with what the error is about. -/
structure PatternError.LocatedIn (text : Text) (error : PatternError) : Prop where
  boundary : (text.upTo error.position.offset).byteLength = error.position.offset
  inside : error.position.offset ≤ text.byteLength
  line : error.position.line = 1 + (text.upTo error.position.offset).count '\n'
  column : error.position.column = 1 + (text.upTo error.position.offset).lastLine.length
  begins : error.Begins (text.slice error.position.offset text.byteLength)

theorem PatternError.located_behind {error : PatternError} {front rest : Text}
    (place : error.position = Position.start.afterAll front) (begins : error.Begins rest) :
    error.LocatedIn (front ++ rest) := by
  have reached := Position.start_after_all front
  have offset : error.position.offset = front.byteLength := by rw [place, reached]
  have cut := Text.slice_append front rest []
  rw [List.append_nil] at cut
  constructor
  · rw [offset, Text.up_to_append]
  · rw [offset, Text.byte_length_append]
    exact Nat.le_add_right _ _
  · rw [offset, Text.up_to_append, place, reached]
  · rw [offset, Text.up_to_append, place, reached]
  · rw [offset, cut]
    exact begins

namespace Token.Lexed

variable {token : Token} (lexed : token.Lexed)

include lexed

theorem read_by {kind : TokenKind} (ofKind : token.kind = kind) :
    ∃ text, ReadBy text kind token.text := by
  obtain ⟨text, read⟩ := lexed
  rw [ofKind] at read
  exact ⟨text, lexeme_read_by read⟩

theorem nonempty : token.text ≠ [] := by
  obtain ⟨text, readBy⟩ := read_by lexed rfl
  exact readBy.nonempty

theorem mem_operators (ofKind : token.kind ∈ operatorKinds) :
    token.text ∈ operators ++ chainOperators := by
  simp only [operatorKinds, List.mem_cons, List.not_mem_nil, or_false] at ofKind
  obtain plain | chained := ofKind
  · obtain ⟨text, readBy⟩ := read_by lexed plain
    exact List.mem_append_left _ readBy.mem_operators
  · obtain ⟨text, readBy⟩ := read_by lexed chained
    exact List.mem_append_right _ readBy.mem_chain_operators

theorem opener (ofKind : token.kind ∈ openerKinds) :
    token.text = ['('] ∨ token.text = ['['] ∨ token.text ∈ operators ++ chainOperators := by
  obtain paren | ofKind := List.mem_cons.1 ofKind
  · obtain ⟨text, readBy⟩ := read_by lexed paren
    exact .inl (readBy.mem_marks (by decide))
  obtain bracket | ofKind := List.mem_cons.1 ofKind
  · obtain ⟨text, readBy⟩ := read_by lexed bracket
    exact .inr (.inl (readBy.mem_marks (by decide)))
  · exact .inr (.inr (mem_operators lexed ofKind))

theorem regex_opened (regex : token.kind = .regex) : ['/'] <+: token.text := by
  obtain ⟨text, readBy⟩ := read_by lexed regex
  obtain ⟨body, opened, _⟩ := readBy.is_regex.opened
  rw [opened]
  exact List.prefix_append ['/'] body

end Token.Lexed

theorem PatternError.About.begins {checker : Regex.Checker} {error : PatternError} {token : Token}
    {rest : Text} (about : error.About checker token) (lexed : token.Lexed)
    (next : token.text <+: rest ∨ rest = [] ∧ token.kind = .semicolon ∧ token.text = [';']) :
    error.Begins rest := by
  have begun : token.kind ≠ .semicolon → token.text <+: rest := by
    intro apart
    obtain inText | ⟨_, semicolon, _⟩ := next
    · exact inText
    · exact absurd semicolon apart
  have quoted : ∀ {kind : TokenKind} {word : Text}, kind ≠ .semicolon →
      token.kind = kind ∧ token.text = word → word ≠ [] ∧ word <+: rest := by
    rintro kind word apart ⟨rfl, rfl⟩
    exact ⟨lexed.nonempty, begun apart⟩
  cases error with
  | unexpectedToken unexpected =>
      cases about
      exact ⟨lexed.kind_ne_end, next⟩
  | lexical error => exact about.elim
  | duplicateCapture name position => exact quoted (by decide) about
  | undeclaredReference name position => exact quoted (by decide) about
  | captureUnderNegation name position => exact quoted (by decide) about
  | invalidGroupCapture index fault position => exact quoted (by decide) about
  | invalidRegex pattern cause position =>
      have regex : token.kind = .regex := about.1
      exact (lexed.regex_opened regex).trans (begun (by simp [regex]))
  | nestingTooDeep limit position =>
      have ofKind : token.kind ∈ openerKinds := about
      have inText := begun (fun semicolon => by simp [semicolon, openerKinds] at ofKind)
      obtain paren | bracket | operator := lexed.opener ofKind
      · exact .inl (paren ▸ inText)
      · exact .inr (.inl (bracket ▸ inText))
      · exact .inr (.inr ⟨token.text, operator, inText⟩)
  | invalidRelation cause position =>
      obtain ⟨ofKind, spelling⟩ := about
      have inText := begun (fun semicolon => by simp [semicolon, operatorKinds] at ofKind)
      have operator := lexed.mem_operators ofKind
      obtain same | same := spelling
      · exact ⟨same ▸ lexed.nonempty, same ▸ inText⟩
      · refine ⟨?_, List.IsPrefix.trans ⟨['-'], same.symm⟩ inText⟩
        intro none
        rw [same, none] at operator
        exact absurd operator (by decide)

namespace Pattern

/-- Whatever is wrong with a text, the error has a place in the text as it was given: never the end
of the input, never behind the terminator that was added, and the text goes on there with the name,
the number, the regex, the symbol or the bracket that the error is about. -/
theorem compile_error_located {resolver : Resolver} {text : Text} {error : PatternError}
    (refused : compile resolver text = .error error) : error.LocatedIn text := by
  unfold compile parseText at refused
  cases tokenized : tokenize (terminated text) with
  | error stopped =>
      rw [tokenized] at refused
      cases refused
      obtain ⟨front, rest, rfl, more, place⟩ := tokenize_terminated_stops tokenized
      exact PatternError.located_behind place more
  | ok tokens =>
      rw [tokenized] at refused
      cases parses : parseTokens resolver tokens with
      | ok parsed =>
          simp only [parses] at refused
          cases refused
      | error found =>
          simp only [parses] at refused
          cases refused
          obtain ⟨terminator, standing⟩ := tokenize_terminated tokenized
          obtain ⟨token, inside, place, about⟩ := parse_tokens_cites terminator parses
          obtain ⟨lexed, front, rest, rfl, reached, next⟩ := standing token inside
          exact PatternError.located_behind (place.symm.trans reached) (about.begins lexed next)

theorem map_eq_error {α β : Type} {change : α → β} {result : Except PatternError α}
    {error : PatternError} : result.map change = .error error ↔ result = .error error := by
  cases result <;> simp [Except.map]

-- A name on the second line, behind characters of two bytes, and a terminator that is found
-- too early although the text has none.
theorem compile_error_located_lines :
    ∃ twice early : PatternError, compile .standard "é=x\n< Ü=x".toList = .error twice ∧
      twice = .duplicateCapture ['x'] ⟨10, 2, 5⟩ ∧
        PatternError.LocatedIn "é=x\n< Ü=x".toList twice ∧
      compile .standard "é <".toList = .error early ∧ early.position = ⟨4, 1, 4⟩ ∧
        PatternError.LocatedIn "é <".toList early := by
  have evaluated : (compile .standard "é=x\n< Ü=x".toList).map Pattern.names =
      .error (.duplicateCapture ['x'] ⟨10, 2, 5⟩) := by decide +kernel
  have evaluatedToo : (compile .standard "é <".toList).map Pattern.names =
      .error (.unexpectedToken ⟨⟨.semicolon, [';'], ⟨4, 1, 4⟩⟩, ⟨[.identifier, .number, .blank,
        .regex, .leftParen, .bang, .atSign, .equals, .tilde]⟩⟩) := by
    decide +kernel
  have refused := map_eq_error.1 evaluated
  have refusedToo := map_eq_error.1 evaluatedToo
  exact ⟨_, _, refused, rfl, compile_error_located refused, refusedToo, rfl,
    compile_error_located refusedToo⟩

end Pattern

end TreeQuery

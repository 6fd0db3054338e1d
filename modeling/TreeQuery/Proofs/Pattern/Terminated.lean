import TreeQuery.Proofs.Token.Terminator

/- The terminator that a text may do without. Whether a text has one is seen from its last
   character that is no blank, while the grammar asks for a token; both say the same of every
   text that is accepted, so a text is read in one way, with its own terminator or with
   the one that is put behind it. -/
set_option autoImplicit false

namespace TreeQuery

open Grammar

theorem Layout.last {front text : Text} {tokens : List Token} {last final : Token}
    (layout : Layout front text (tokens ++ [last, final])) :
    ∃ before gap, text = before ++ (last.text ++ gap) ∧ ∀ c ∈ gap, isGap c = true := by
  induction tokens generalizing front text with
  | nil =>
      rw [List.nil_append] at layout
      cases layout with
      | @token _ gap word rest kind _ _ _ others =>
          cases others with
          | ending blank => exact ⟨gap, _, rfl, blank⟩
          | token _ _ none => cases none
  | cons token tokens ih =>
      rw [List.cons_append] at layout
      generalize split : tokens ++ [last, final] = later at layout
      cases layout with
      | ending => simp at split
      | @token _ gap word rest kind _ _ _ others =>
          subst split
          obtain ⟨before, behind, rfl, blank⟩ := ih others
          exact ⟨gap ++ (word ++ before), behind, by simp, blank⟩

theorem gap_is_blank {c : Char} (gap : isGap c = true) : isBlank c = true := by
  obtain rfl | rfl | rfl | rfl := gap_cases gap <;> decide

variable {resolver : Resolver} {text : Text}

theorem parse_text_terminated {parsed : Parsed} (accepted : parseText resolver text = .ok parsed) :
    text.trimEnd.getLast? = some ';' := by
  obtain ⟨⟨top, terminator⟩, _, final, tokenized, -, lexed, -⟩ := parse_text_outcome accepted
  have layout := tokenize_layout tokenized
  rw [PatternPhrase.tokens, List.append_assoc] at layout
  obtain ⟨before, gap, rfl, blank⟩ := layout.last
  have spelt : terminator.token.text = [';'] := by
    obtain ⟨whole, read⟩ := lexed terminator.token (by simp [PatternPhrase.tokens])
    rw [terminator.kind_eq] at read
    exact (lexeme_read_by read).mem_marks (by decide)
  rw [spelt]
  exact Text.trim_end_terminator.2 ⟨before, gap, rfl, fun c inside => gap_is_blank (blank c inside)⟩

theorem parse_text_once {parsed : Parsed} (ends : text.trimEnd.getLast? = some ';') :
    parseText resolver (text ++ [';']) ≠ .ok parsed := by
  intro accepted
  obtain ⟨phrase, _, final, tokenized, ended, -⟩ := parse_text_outcome accepted
  have layout := tokenize_layout tokenized
  obtain ⟨before, blanks, rfl, blank⟩ := Text.trim_end_terminator.1 ends
  have noSlash : '/' ∉ blanks ++ [';'] := by simp [slash_not_blank blank]
  rw [List.append_assoc, List.cons_append] at layout
  obtain ⟨ahead, first, behind, split, isFirst, _, layoutBehind⟩ := layout.terminator rfl noSlash
  obtain ⟨between, second, later, rfl, isSecond, -⟩ :=
    layoutBehind.terminator rfl List.not_mem_nil
  have once : (phrase.tokens ++ [final]).countP (·.kind = .semicolon) = 1 := by
    simp [phrase.semicolons, ended]
  rw [split] at once
  simp only [List.countP_append, List.countP_cons, isFirst, isSecond, decide_true, if_true] at once
  omega

theorem parse_terminated {parsed : Parsed} :
    parseText resolver (Pattern.terminated text) = .ok parsed ↔
      parseText resolver text = .ok parsed ∨ parseText resolver (text ++ [';']) = .ok parsed := by
  unfold Pattern.terminated
  split
  · rename_i ends
    exact (or_iff_left (parse_text_once ends)).symm
  · rename_i unended
    exact (or_iff_right fun accepted => unended (parse_text_terminated accepted)).symm

/-- The terminator may be left off without doubt about what is meant. What is compiled from a text
is what is read from it or from the text with a terminator behind it, whichever is accepted,
and no more than one of them ever is. -/
theorem Pattern.compile_terminator (resolver : Resolver) (text : Text) :
    (∀ pattern, compile resolver text = .ok pattern ↔
      ∃ parsed, (parseText resolver text = .ok parsed ∨
          parseText resolver (text ++ [';']) = .ok parsed) ∧
        pattern.root = parsed.root ∧ pattern.names = parsed.names ∧
          pattern.source = text ∧ pattern.resolver = resolver) ∧
    ¬ ((∃ parsed, parseText resolver text = .ok parsed) ∧
        ∃ parsed, parseText resolver (text ++ [';']) = .ok parsed) := by
  constructor
  · intro pattern
    rw [compile_eq_parsed]
    constructor
    · rintro ⟨parsed, accepted, rfl⟩
      exact ⟨parsed, parse_terminated.1 accepted, rfl, rfl, rfl, rfl⟩
    · rintro ⟨parsed, accepted, root, names, source, kept⟩
      obtain ⟨_, _, _, _⟩ := pattern
      cases root
      cases names
      cases source
      cases kept
      exact ⟨parsed, parse_terminated.2 accepted, rfl⟩
  · rintro ⟨⟨parsed, accepted⟩, other, acceptedToo⟩
    exact parse_text_once (parse_text_terminated accepted) acceptedToo

end TreeQuery

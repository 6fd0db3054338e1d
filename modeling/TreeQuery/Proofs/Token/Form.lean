import Mathlib.Data.List.TakeWhile
import TreeQuery.Proofs.Token.RegexLiteral

/- The forms of words. What a token may be is told here by the characters of its word and the first
   one behind it, without the rules and their order. Whatever a rule reads is of the form of its
   kind. -/
set_option autoImplicit false

namespace TreeQuery

open Regex

-- What may stand between the slashes of a regex. A slash in it is behind a backslash.
structure RegexBody (body : Text) : Prop where
  nonempty : body ≠ []
  oneLine : ∀ c ∈ body, c ≠ '\n' ∧ c ≠ '\r'
  escaped : ∀ before behind, body = before ++ '/' :: behind → before.getLast? = some '\\'

inductive Alternatives : Text → Prop where
  | single {name : Text} (nonempty : name ≠ []) (chars : ∀ c ∈ name, isNameChar c = true) :
      Alternatives name
  | several {name rest : Text} (nonempty : name ≠ []) (chars : ∀ c ∈ name, isNameChar c = true)
      (others : Alternatives rest) : Alternatives (name ++ '|' :: rest)

-- The word may be a token of the kind in front of the rest.
inductive Form : TokenKind → Text → Text → Prop where
  | chainOperator {word rest : Text} (inside : word ∈ chainOperators) :
      Form .chainOperator word rest
  | operator {word rest : Text} (inside : word ∈ operators) : Form .operator word rest
  | regex {body rest : Text} (isBody : RegexBody body) :
      Form .regex ('/' :: (body ++ ['/'])) rest
  | number {word rest : Text} (nonempty : word ≠ []) (digits : ∀ c ∈ word, c.isDigit = true)
      (ends : startsName rest = false) : Form .number word rest
  | blank {rest : Text} (ends : startsName rest = false) : Form .blank ['_', '_'] rest
  | identifier {word rest : Text} (names : Alternatives word) : Form .identifier word rest
  | mark {kind : TokenKind} {mark : Char} {rest : Text} (named : (kind, mark) ∈ marks) :
      Form kind [mark] rest

namespace Regex

theorem escape_char {pattern : Text} {c : Char} (inside : c ∈ escape pattern) :
    c ∈ pattern ∨ c = '\\' := by
  induction pattern with
  | nil => cases inside
  | cons d pattern ih =>
      by_cases slash : d = '/'
      · subst slash
        rw [escape_slash, List.mem_cons, List.mem_cons] at inside
        obtain rfl | rfl | inside := inside
        · exact .inr rfl
        · exact .inl List.mem_cons_self
        · exact (ih inside).imp_left (List.mem_cons_of_mem _)
      · rw [escape_plain slash, List.mem_cons] at inside
        obtain rfl | inside := inside
        · exact .inl List.mem_cons_self
        · exact (ih inside).imp_left (List.mem_cons_of_mem _)

theorem escape_escaped {pattern before behind : Text}
    (split : escape pattern = before ++ '/' :: behind) : before.getLast? = some '\\' := by
  induction pattern generalizing before with
  | nil => simp [escape] at split
  | cons c pattern ih =>
      by_cases slash : c = '/'
      · subst slash
        rw [escape_slash] at split
        match before with
        | [] => cases split
        | [first] =>
            cases split
            rfl
        | first :: second :: before =>
            have inner := (List.cons.inj (List.cons.inj split).2).2
            rw [List.getLast?_cons_cons, List.getLast?_cons, ih inner]
            rfl
      · rw [escape_plain slash] at split
        cases before with
        | nil => exact absurd (List.cons.inj split).1 slash
        | cons first before =>
            rw [List.getLast?_cons, ih (List.cons.inj split).2]
            rfl

theorem escape_append (front back : Text) :
    escape (front ++ back) = escape front ++ escape back := by
  induction front with
  | nil => rfl
  | cons c front ih =>
      by_cases slash : c = '/'
      · subst slash
        rw [List.cons_append, escape_slash, escape_slash, ih]
        rfl
      · rw [List.cons_append, escape_plain slash, escape_plain slash, ih]
        rfl

theorem escape_last {pattern : Text} {c : Char} (last : pattern.getLast? = some c) :
    (escape pattern).getLast? = some c := by
  obtain ⟨front, rfl⟩ := List.getLast?_eq_some_iff.1 last
  rw [escape_append, List.getLast?_append]
  by_cases slash : c = '/'
  · subst slash
    rfl
  · rw [escape_plain slash]
    rfl

theorem Writable.body {pattern : Text} (writable : Writable pattern) :
    RegexBody (escape pattern) := by
  refine ⟨?_, fun c inside => ?_, fun _ _ => escape_escaped⟩
  · obtain ⟨c, front, rfl⟩ := List.exists_cons_of_ne_nil writable.nonempty
    unfold escape
    split <;> exact List.cons_ne_nil _ _
  · obtain plain | rfl := escape_char inside
    · exact writable.oneLine c plain
    · decide

end Regex

theorem starts_name_word {word : Text} (nonempty : word ≠ [])
    (chars : ∀ c ∈ word, isNameChar c = true) (rest : Text) : startsName (word ++ rest) = true := by
  obtain ⟨c, word, rfl⟩ := List.exists_cons_of_ne_nil nonempty
  exact chars c List.mem_cons_self

theorem identifier_tail_name {c : Char} (name : isNameChar c = true) (rest : Text) :
    identifierTail (c :: rest) = c :: identifierTail rest := by
  rw [identifierTail, if_pos name]
  rintro rfl
  cases name

theorem identifier_tail_word {word : Text} (chars : ∀ c ∈ word, isNameChar c = true)
    (rest : Text) : identifierTail (word ++ rest) = word ++ identifierTail rest := by
  induction word with
  | nil => rfl
  | cons c word ih =>
      obtain ⟨name, chars⟩ := List.forall_mem_cons.1 chars
      rw [List.cons_append, identifier_tail_name name, ih chars, List.cons_append]

theorem identifier_tail_bar {rest : Text} (starts : startsName rest = true) :
    identifierTail ('|' :: rest) = '|' :: identifierTail rest := by
  rw [identifierTail, if_pos starts]

theorem identifier_tail_boundary_eq {rest : Text} (boundary : Boundary rest) :
    identifierTail rest = [] := @identifier_tail_append [] rest boundary

-- Behind the end of a name, a bar with a name behind it is all that an identifier goes on with.
theorem goes_on_of_not_boundary {rest : Text} (ends : startsName rest = false)
    (further : ¬ Boundary rest) : ∃ more, rest = '|' :: more ∧ startsName more = true := by
  by_contra none
  refine further ⟨ends, fun more split => ?_⟩
  rw [← Bool.not_eq_true]
  exact fun starts => none ⟨more, split, starts⟩

theorem Alternatives.starts {word : Text} (names : Alternatives word) (rest : Text) :
    startsName (word ++ rest) = true := by
  cases names with
  | single nonempty chars => exact starts_name_word nonempty chars rest
  | several nonempty chars _ =>
      rw [List.append_assoc]
      exact starts_name_word nonempty chars _

theorem Alternatives.within {word : Text} (names : Alternatives word) (rest : Text) :
    word <+: identifierTail (word ++ rest) := by
  induction names with
  | single _ chars =>
      rw [identifier_tail_word chars]
      exact List.prefix_append _ _
  | several _ chars others ih =>
      rw [List.append_assoc, identifier_tail_word chars, List.cons_append,
        identifier_tail_bar (others.starts rest)]
      exact (List.prefix_append_right_inj _).2 ((List.prefix_cons_inj '|').2 ih)

theorem name_split {text : Text} (starts : startsName text = true) : ∃ word rest,
    text = word ++ rest ∧ word ≠ [] ∧ (∀ c ∈ word, isNameChar c = true) ∧
      startsName rest = false := by
  refine ⟨text.takeWhile isNameChar, text.dropWhile isNameChar,
    List.takeWhile_append_dropWhile.symm, ?_, fun c inside => List.mem_takeWhile_imp inside, ?_⟩
  · cases text with
    | nil => cases starts
    | cons c rest => simp [List.takeWhile_cons_of_pos (show isNameChar c = true from starts)]
  · have ends := List.head?_dropWhile_not isNameChar text
    cases behind : text.dropWhile isNameChar with
    | nil => rfl
    | cons c rest =>
        rw [behind] at ends
        exact ends

theorem identifier_tail_alternatives {text : Text} (starts : startsName text = true) :
    Alternatives (identifierTail text) := by
  -- The names behind the first bar are those of a shorter text.
  induction length : text.length using Nat.strongRecOn generalizing text with
  | ind bound ih =>
      subst length
      obtain ⟨word, rest, rfl, nonempty, chars, ends⟩ := name_split starts
      rw [identifier_tail_word chars]
      by_cases boundary : Boundary rest
      · rw [identifier_tail_boundary_eq boundary, List.append_nil]
        exact .single nonempty chars
      · obtain ⟨more, rfl, startsMore⟩ := goes_on_of_not_boundary ends boundary
        have shorter : more.length < (word ++ '|' :: more).length := by
          rw [List.length_append, List.length_cons]
          omega
        rw [identifier_tail_bar startsMore]
        exact .several nonempty chars (ih more.length shorter startsMore rfl)

theorem number_lexeme_eq_some {text digits : Text} (found : numberLexeme? text = some digits) :
    ∃ rest, text = digits ++ rest ∧ digits ≠ [] ∧ (∀ c ∈ digits, c.isDigit = true) ∧
      startsName rest = false := by
  simp only [numberLexeme?, Option.ite_none_left_eq_some, Bool.or_eq_true, not_or,
    Option.some.injEq] at found
  obtain ⟨⟨wide, ends⟩, rfl⟩ := found
  refine ⟨text.dropWhile Char.isDigit, List.takeWhile_append_dropWhile.symm, ?_, ?_, ?_⟩
  · exact fun none => wide (List.isEmpty_iff.2 none)
  · exact fun c inside => List.mem_takeWhile_imp inside
  · exact Bool.eq_false_iff.2 ends

theorem ReadBy.form {text lexeme : Text} {kind : TokenKind} (read : ReadBy text kind lexeme) :
    ∃ rest, text = lexeme ++ rest ∧ Form kind lexeme rest := by
  obtain ⟨rest, rfl⟩ := read.lexeme_prefix
  refine ⟨rest, rfl, ?_⟩
  cases read with
  | chainOperator read => exact .chainOperator (spelling_eq_some read).1
  | operator read => exact .operator (spelling_eq_some read).1
  | regex read =>
      obtain ⟨pattern, writable, rfl⟩ := regex_lexeme_literal read
      exact .regex writable.body
  | number read =>
      obtain ⟨behind, split, nonempty, digits, ends⟩ := number_lexeme_eq_some read
      exact .number nonempty digits (List.append_cancel_left split ▸ ends)
  | blank read =>
      obtain ⟨-, rfl⟩ := blank_lexeme_eq_some read
      exact .blank (by simpa [blank_lexeme_cons] using read)
  | identifier read =>
      unfold identifierLexeme? at read
      split at read
      · rename_i starts
        exact .identifier (Option.some.inj read ▸ identifier_tail_alternatives starts)
      · cases read
  | mark named _ => exact .mark named

end TreeQuery

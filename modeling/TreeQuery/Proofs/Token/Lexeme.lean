import TreeQuery.Token.Lexer

/- What the lexical rules read at the front of a text: always a beginning of the text,
   and for words no more than up to a boundary, whatever stands behind it. -/
set_option autoImplicit false

namespace TreeQuery

def markLexeme? (text : Text) : Option (TokenKind × Text) :=
  marks.findSome? fun (kind, mark) => (spelling? [[mark]] text).map (kind, ·)

theorem gap_cases {c : Char} (gap : isGap c = true) :
    c = ' ' ∨ c = '\t' ∨ c = '\r' ∨ c = '\n' := by
  simpa [isGap, or_assoc] using gap

theorem lexeme_eq (text : Text) : lexeme? text =
    ((spelling? chainOperators text).map (TokenKind.chainOperator, ·)).or
      (((spelling? operators text).map (TokenKind.operator, ·)).or
        (((regexLexeme? text).map (TokenKind.regex, ·)).or
          (((numberLexeme? text).map (TokenKind.number, ·)).or
            (((blankLexeme? text).map (TokenKind.blank, ·)).or
              (((identifierLexeme? text).map (TokenKind.identifier, ·)).or
                (markLexeme? text)))))) := by
  unfold lexeme? lexicalRules markLexeme?
  simp only [List.cons_append, List.nil_append, List.findSome?_cons, List.findSome?_map]
  cases spelling? chainOperators text <;> cases spelling? operators text <;>
    cases regexLexeme? text <;> cases numberLexeme? text <;> cases blankLexeme? text <;>
    cases identifierLexeme? text <;> rfl

theorem spelling_eq_some {spellings : List Text} {text spelling : Text}
    (found : spelling? spellings text = some spelling) :
    spelling ∈ spellings ∧ spelling <+: text := by
  have holds := List.find?_some found
  exact ⟨List.mem_of_find?_eq_some found, List.isPrefixOf_iff_prefix.1 holds⟩

theorem regex_tail_cons {c : Char} {rest : Text} (plain : c = '\\' → rest.head? ≠ some '/') :
    regexTail? (c :: rest) =
      if c = '/' then some ['/'] else if c = '\n' ∨ c = '\r' then none
      else (regexTail? rest).map (c :: ·) := by
  rw [regexTail?]
  rintro more rfl rfl
  exact plain rfl rfl

theorem regex_tail_prefix {text tail : Text} (found : regexTail? text = some tail) :
    tail <+: text := by
  fun_induction regexTail? text generalizing tail with
  | case1 => cases found
  | case2 rest ih =>
      obtain ⟨inner, behind, rfl⟩ := Option.map_eq_some_iff.1 found
      exact (List.prefix_append_right_inj ['\\', '/']).2 (ih behind)
  | case3 rest =>
      cases found
      exact ⟨rest, rfl⟩
  | case4 => cases found
  | case5 c rest _ _ _ ih =>
      obtain ⟨inner, behind, rfl⟩ := Option.map_eq_some_iff.1 found
      exact (List.prefix_append_right_inj [c]).2 (ih behind)

theorem regex_tail_last {text tail : Text} (found : regexTail? text = some tail) :
    tail.getLast? = some '/' := by
  fun_induction regexTail? text generalizing tail with
  | case1 => cases found
  | case2 rest ih =>
      obtain ⟨inner, behind, rfl⟩ := Option.map_eq_some_iff.1 found
      simp [List.getLast?_cons, ih behind]
  | case3 rest =>
      cases found
      rfl
  | case4 => cases found
  | case5 c rest _ _ _ ih =>
      obtain ⟨inner, behind, rfl⟩ := Option.map_eq_some_iff.1 found
      simp [List.getLast?_cons, ih behind]

-- The end of a regex does not depend on what stands behind it.
theorem regex_tail_again {text tail : Text} (found : regexTail? text = some tail) (rest : Text) :
    regexTail? (tail ++ rest) = some tail := by
  fun_induction regexTail? text generalizing tail with
  | case1 => cases found
  | case2 _ ih =>
      obtain ⟨inner, behind, rfl⟩ := Option.map_eq_some_iff.1 found
      simp [regexTail?, ih behind]
  | case3 =>
      cases found
      rfl
  | case4 => cases found
  | case5 c more plain notSlash sameLine ih =>
      obtain ⟨inner, behind, rfl⟩ := Option.map_eq_some_iff.1 found
      have notEscape : c = '\\' → (inner ++ rest).head? ≠ some '/' := by
        rintro rfl start
        obtain ⟨back, rfl⟩ := regex_tail_prefix behind
        cases inner with
        | nil => cases regex_tail_last behind
        | cons first inner =>
            cases start
            exact plain (inner ++ back) rfl rfl
      rw [List.cons_append, regex_tail_cons notEscape, if_neg notSlash, if_neg sameLine, ih behind]
      rfl

structure IsRegex (literal : Text) : Prop where
  opened : ∃ body, literal = '/' :: body ∧ body.getLast? = some '/'
  again : ∀ rest, regexLexeme? (literal ++ rest) = some literal

theorem regex_lexeme_eq_some {text literal : Text} (found : regexLexeme? text = some literal) :
    literal <+: text ∧ IsRegex literal := by
  unfold regexLexeme? at found
  split at found
  · rename_i c rest
    split at found
    · cases found
    · rename_i notSlash
      obtain ⟨body, closed, rfl⟩ := Option.map_eq_some_iff.1 found
      obtain ⟨back, split⟩ := regex_tail_prefix closed
      refine ⟨⟨back, by rw [List.cons_append, split]⟩, ⟨body, rfl, regex_tail_last closed⟩, ?_⟩
      intro behind
      cases body with
      | nil => cases regex_tail_last closed
      | cons first body =>
          cases split
          change (if c = '/' then none else (regexTail? _).map _) = _
          rw [if_neg notSlash]
          exact congrArg (Option.map ('/' :: ·)) (regex_tail_again closed behind)
  · cases found

theorem number_lexeme_prefix {text digits : Text} (found : numberLexeme? text = some digits) :
    digits <+: text := by
  simp only [numberLexeme?] at found
  split at found
  · cases found
  · cases found
    exact List.takeWhile_prefix _

theorem blank_lexeme_eq_some {text blank : Text} (found : blankLexeme? text = some blank) :
    blank <+: text ∧ blank = ['_', '_'] := by
  unfold blankLexeme? at found
  split at found
  · rename_i rest
    split at found
    · cases found
    · cases found
      exact ⟨⟨rest, rfl⟩, rfl⟩
  · cases found

theorem identifier_tail_prefix (text : Text) : identifierTail text <+: text := by
  fun_induction identifierTail text with
  | case1 => exact List.prefix_rfl
  | case2 rest _ ih => exact (List.prefix_append_right_inj ['|']).2 ih
  | case3 => exact List.nil_prefix
  | case4 c rest _ _ ih => exact (List.prefix_append_right_inj [c]).2 ih
  | case5 => exact List.nil_prefix

theorem identifier_tail_ne_nil {text : Text} (starts : startsName text = true) :
    identifierTail text ≠ [] := by
  cases text with
  | nil => cases starts
  | cons c text =>
      have name : isNameChar c = true := starts
      by_cases bar : c = '|'
      · subst bar
        cases name
      · simp [identifierTail, name]

-- No name goes on with the text, neither directly nor behind a bar.
def Boundary (text : Text) : Prop :=
  startsName text = false ∧ ∀ rest, text = '|' :: rest → startsName rest = false

theorem boundary_cons {c : Char} (rest : Text) (apart : isNameChar c = false) (noBar : c ≠ '|') :
    Boundary (c :: rest) :=
  ⟨apart, fun _ same => absurd (List.cons.inj same).1 noBar⟩

theorem starts_name_append {text rest : Text} (apart : startsName rest = false) :
    startsName (text ++ rest) = startsName text := by
  cases text with
  | nil => exact apart
  | cons c text => rfl

theorem starts_name_of_starts {text : Text} (starts : startsName text = true) (rest : Text) :
    startsName (text ++ rest) = true := by
  cases text with
  | nil => cases starts
  | cons c text => exact starts

theorem digit_is_name_char {c : Char} (digit : c.isDigit = true) : isNameChar c = true := by
  have apart : reserved.all (fun other => !other.isDigit) = true := by decide
  unfold isNameChar
  cases inside : reserved.contains c with
  | false => rfl
  | true =>
      have noDigit := List.all_eq_true.1 apart c (by simpa using inside)
      simp [digit] at noDigit

theorem digits_append {text rest : Text} (apart : startsName rest = false) :
    (text ++ rest).takeWhile Char.isDigit = text.takeWhile Char.isDigit ∧
      (text ++ rest).dropWhile Char.isDigit = text.dropWhile Char.isDigit ++ rest := by
  induction text with
  | nil =>
      cases rest with
      | nil => exact ⟨rfl, rfl⟩
      | cons c rest =>
          have notDigit : ¬ c.isDigit = true := fun digit =>
            absurd apart (by simp [startsName, digit_is_name_char digit])
          simp [notDigit]
  | cons c text ih => by_cases digit : c.isDigit = true <;> simp [digit, ih]

theorem number_lexeme_append {text rest : Text} (apart : startsName rest = false) :
    numberLexeme? (text ++ rest) = numberLexeme? text := by
  simp only [numberLexeme?]
  rw [(digits_append apart).1, (digits_append apart).2, starts_name_append apart]

theorem blank_lexeme_cons (c d : Char) (rest : Text) : blankLexeme? (c :: d :: rest) =
    if c = '_' ∧ d = '_' ∧ startsName rest = false then some ['_', '_'] else none := by
  by_cases first : c = '_' <;> by_cases second : d = '_' <;> cases starts : startsName rest <;>
    simp_all [blankLexeme?]

theorem blank_lexeme_append {text rest : Text} (apart : startsName rest = false) :
    blankLexeme? (text ++ rest) = blankLexeme? text := by
  have notUnderscore : ∀ d more, rest = d :: more → d ≠ '_' := by
    rintro d more rfl rfl
    cases apart
  match text with
  | [] =>
      match rest with
      | [] => rfl
      | [c] => simp [blankLexeme?]
      | c :: d :: more => simp [notUnderscore, blankLexeme?]
  | [c] =>
      cases rest with
      | nil => rfl
      | cons d more => simp [notUnderscore d more rfl, blankLexeme?]
  | c :: d :: more =>
      simp only [List.cons_append, blank_lexeme_cons, starts_name_append apart]

theorem identifier_tail_append {text rest : Text} (boundary : Boundary rest) :
    identifierTail (text ++ rest) = identifierTail text := by
  fun_induction identifierTail text with
  | case1 =>
      obtain ⟨apart, noBar⟩ := boundary
      cases rest with
      | nil => rfl
      | cons c rest =>
          by_cases bar : c = '|'
          · subst bar
            simp [identifierTail, noBar rest rfl]
          · have notName : isNameChar c = false := apart
            simp [identifierTail, notName]
  | case2 more starts ih =>
      simp [identifierTail, starts_name_append boundary.1, starts, ih]
  | case3 more stops =>
      simp [identifierTail, starts_name_append boundary.1, stops]
  | case4 c more notBar name ih => simp [identifierTail, name, ih]
  | case5 c more notBar notName => simp [identifierTail, notName]

theorem no_spelling {spellings : List Text} {text : Text} (starts : startsName text = true)
    (apart : ∀ spelling ∈ spellings, spelling ≠ [] ∧ startsName spelling = false) :
    spelling? spellings text = none := by
  refine List.find?_eq_none.2 ?_
  intro spelling inside begins
  obtain ⟨rest, rfl⟩ := List.isPrefixOf_iff_prefix.1 begins
  cases spelling with
  | nil => exact (apart [] inside).1 rfl
  | cons c spelling => exact Bool.noConfusion ((apart _ inside).2.symm.trans starts)

theorem lexeme_of_name {text : Text} (starts : startsName text = true) : lexeme? text =
    ((numberLexeme? text).map (TokenKind.number, ·)).or
      (((blankLexeme? text).map (TokenKind.blank, ·)).or
        (some (.identifier, identifierTail text))) := by
  have noRegex : regexLexeme? text = none := by
    unfold regexLexeme?
    split
    · exact Bool.noConfusion (starts.symm.trans (by decide : isNameChar '/' = false))
    · rfl
  rw [lexeme_eq, no_spelling starts (by decide), no_spelling starts (by decide), noRegex]
  simp [identifierLexeme?, starts]

theorem lexeme_append {text rest : Text} (starts : startsName text = true)
    (boundary : Boundary rest) : lexeme? (text ++ rest) = lexeme? text := by
  have startsToo := starts_name_of_starts starts rest
  rw [lexeme_of_name starts, lexeme_of_name startsToo, number_lexeme_append boundary.1,
    blank_lexeme_append boundary.1, identifier_tail_append boundary]

theorem identifier_tail_boundary {text rest : Text} (whole : identifierTail (text ++ rest) = text) :
    Boundary rest := by
  induction text with
  | nil =>
      cases rest with
      | nil => exact ⟨rfl, fun _ same => by cases same⟩
      | cons c rest =>
          by_cases bar : c = '|'
          · subst bar
            refine ⟨rfl, fun more same => ?_⟩
            cases same
            cases starts : startsName rest with
            | false => rfl
            | true => simp [identifierTail, starts] at whole
          · have notName : isNameChar c = false := by
              cases name : isNameChar c with
              | false => rfl
              | true => simp [identifierTail, name] at whole
            exact boundary_cons rest notName bar
  | cons c text ih =>
      rw [List.cons_append] at whole
      by_cases bar : c = '|'
      · subst bar
        cases starts : startsName (text ++ rest) with
        | false => simp [identifierTail, starts] at whole
        | true => exact ih (by simpa [identifierTail, starts] using whole)
      · cases name : isNameChar c with
        | false => simp [identifierTail, name] at whole
        | true => exact ih (by simpa [identifierTail, name] using whole)

structure IsName (text : Text) : Prop where
  starts : startsName text = true
  lexeme : lexeme? text = some (.identifier, text)

inductive ReadBy (text : Text) : TokenKind → Text → Prop where
  | chainOperator {lexeme : Text} (read : spelling? chainOperators text = some lexeme) :
      ReadBy text .chainOperator lexeme
  | operator {lexeme : Text} (read : spelling? operators text = some lexeme) :
      ReadBy text .operator lexeme
  | regex {lexeme : Text} (read : regexLexeme? text = some lexeme) : ReadBy text .regex lexeme
  | number {lexeme : Text} (read : numberLexeme? text = some lexeme) : ReadBy text .number lexeme
  | blank {lexeme : Text} (read : blankLexeme? text = some lexeme) : ReadBy text .blank lexeme
  | identifier {lexeme : Text} (read : identifierLexeme? text = some lexeme) :
      ReadBy text .identifier lexeme
  | mark {kind : TokenKind} {mark : Char} (inside : (kind, mark) ∈ marks)
      (begins : [mark] <+: text) : ReadBy text kind [mark]

theorem or_map_eq_some {kind other : TokenKind} {lexeme : Text} {read : Option Text}
    {rest : Option (TokenKind × Text)}
    (found : (read.map (other, ·)).or rest = some (kind, lexeme)) :
    (other = kind ∧ read = some lexeme) ∨ rest = some (kind, lexeme) := by
  cases read with
  | none => exact .inr found
  | some spelt =>
      cases found
      exact .inl ⟨rfl, rfl⟩

theorem lexeme_read_by {text lexeme : Text} {kind : TokenKind}
    (found : lexeme? text = some (kind, lexeme)) : ReadBy text kind lexeme := by
  rw [lexeme_eq] at found
  rcases or_map_eq_some found with ⟨rfl, read⟩ | found
  · exact .chainOperator read
  rcases or_map_eq_some found with ⟨rfl, read⟩ | found
  · exact .operator read
  rcases or_map_eq_some found with ⟨rfl, read⟩ | found
  · exact .regex read
  rcases or_map_eq_some found with ⟨rfl, read⟩ | found
  · exact .number read
  rcases or_map_eq_some found with ⟨rfl, read⟩ | found
  · exact .blank read
  rcases or_map_eq_some found with ⟨rfl, read⟩ | found
  · exact .identifier read
  obtain ⟨⟨other, mark⟩, inside, same⟩ := List.exists_of_findSome?_eq_some found
  obtain ⟨spelt, read, pair⟩ := Option.map_eq_some_iff.1 same
  obtain ⟨only, begins⟩ := spelling_eq_some read
  cases pair
  cases List.mem_singleton.1 only
  exact .mark inside begins

namespace ReadBy

variable {text lexeme : Text} {kind : TokenKind}

theorem lexeme_prefix (read : ReadBy text kind lexeme) : lexeme <+: text := by
  cases read with
  | chainOperator read => exact (spelling_eq_some read).2
  | operator read => exact (spelling_eq_some read).2
  | regex read => exact (regex_lexeme_eq_some read).1
  | number read => exact number_lexeme_prefix read
  | blank read => exact (blank_lexeme_eq_some read).1
  | identifier read =>
      unfold identifierLexeme? at read
      split at read
      · cases read
        exact identifier_tail_prefix text
      · cases read
  | mark _ begins => exact begins

theorem nonempty (read : ReadBy text kind lexeme) : lexeme ≠ [] := by
  cases read with
  | chainOperator read =>
      have wide : ∀ spelling ∈ chainOperators, spelling ≠ [] := by decide
      exact wide lexeme (spelling_eq_some read).1
  | operator read =>
      have wide : ∀ spelling ∈ operators, spelling ≠ [] := by decide
      exact wide lexeme (spelling_eq_some read).1
  | regex read =>
      obtain ⟨body, rfl, -⟩ := (regex_lexeme_eq_some read).2.opened
      exact List.cons_ne_nil '/' body
  | number read =>
      intro none
      simp only [numberLexeme?, Option.ite_none_left_eq_some, Bool.or_eq_true, not_or,
        Option.some.injEq] at read
      rw [none] at read
      exact read.1.1 (List.isEmpty_iff.2 read.2)
  | blank read =>
      rw [(blank_lexeme_eq_some read).2]
      exact List.cons_ne_nil _ _
  | identifier read =>
      unfold identifierLexeme? at read
      split at read
      · rename_i starts
        cases read
        exact identifier_tail_ne_nil starts
      · cases read
  | mark _ _ => exact List.cons_ne_nil _ _

theorem kind_ne_end (read : ReadBy text kind lexeme) : kind ≠ .endOfInput := by
  cases read with
  | mark inside _ =>
      rintro rfl
      simp [marks] at inside
  | _ => exact fun same => by cases same

theorem mem_operators (read : ReadBy text .operator lexeme) : lexeme ∈ operators := by
  cases read with
  | operator read => exact (spelling_eq_some read).1
  | mark inside _ => simp [marks] at inside

theorem mem_chain_operators (read : ReadBy text .chainOperator lexeme) :
    lexeme ∈ chainOperators := by
  cases read with
  | chainOperator read => exact (spelling_eq_some read).1
  | mark inside _ => simp [marks] at inside

theorem is_regex (read : ReadBy text .regex lexeme) : IsRegex lexeme := by
  cases read with
  | regex read => exact (regex_lexeme_eq_some read).2
  | mark inside _ => simp [marks] at inside

theorem is_blank (read : ReadBy text .blank lexeme) : lexeme = ['_', '_'] := by
  cases read with
  | blank read => exact (blank_lexeme_eq_some read).2
  | mark inside _ => simp [marks] at inside

theorem mem_marks {mark : Char} (read : ReadBy text kind lexeme) (named : (kind, mark) ∈ marks) :
    lexeme = [mark] := by
  have wordless : ∀ pair ∈ marks, pair.1 ∉
      [.chainOperator, .operator, .regex, .number, .blank, .identifier] := by decide
  have single : ∀ pair ∈ marks, ∀ other ∈ marks, pair.1 = other.1 → pair.2 = other.2 := by
    decide
  cases read with
  | mark inside _ => exact congrArg List.singleton (single _ inside _ named rfl)
  | _ => exact absurd (by simp) (wordless _ named)

end ReadBy

theorem lexeme_is_name {text name : Text} (found : lexeme? text = some (.identifier, name)) :
    IsName name := by
  have read := lexeme_read_by found
  obtain ⟨rest, rfl⟩ := read.lexeme_prefix
  cases read with
  | mark inside _ => simp [marks] at inside
  | identifier read =>
      unfold identifierLexeme? at read
      split at read
      · rename_i starts
        have whole := Option.some.inj read
        have boundary := identifier_tail_boundary whole
        have startsToo := (starts_name_append boundary.1).symm.trans starts
        exact ⟨startsToo, (lexeme_append startsToo boundary).symm.trans found⟩
      · cases read

end TreeQuery

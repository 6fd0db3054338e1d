import TreeQuery.Proofs.Token.Lexeme

/- How far the rules look ahead. Where less goes on behind a lexeme than went on behind it
   when it was read, it is read again. So what is cut off behind it is not missed, and
   what comes behind a gap is not seen at all. -/
set_option autoImplicit false

namespace TreeQuery

-- Behind the word, nothing goes on in the other text that does not in the first.
structure GoesOnLess (word rest other : Text) : Prop where
  name : startsName rest = false → startsName other = false
  alternative : Boundary rest → Boundary other
  spelling : ∀ spelling ∈ chainOperators ++ operators,
    spelling <+: word ++ other → spelling <+: word ++ rest

section Again

variable {word rest other : Text} {spellings : List Text}

theorem spelling_again (found : spelling? spellings (word ++ rest) = some word)
    (less : ∀ spelling ∈ spellings, spelling <+: word ++ other → spelling <+: word ++ rest) :
    spelling? spellings (word ++ other) = some word := by
  obtain ⟨-, earlier, later, rfl, apart⟩ := List.find?_eq_some_iff_append.1 found
  refine List.find?_eq_some_iff_append.2 ⟨?_, earlier, later, rfl, ?_⟩
  · exact List.isPrefixOf_iff_prefix.2 (List.prefix_append word other)
  · intro spelling inside
    have noPrefix := apart spelling inside
    simp only [Bool.not_eq_true', ← Bool.not_eq_true, List.isPrefixOf_iff_prefix] at noPrefix ⊢
    exact fun begins => noPrefix (less spelling (List.mem_append_left _ inside) begins)

theorem no_spelling_again (unread : spelling? spellings (word ++ rest) = none)
    (less : ∀ spelling ∈ spellings, spelling <+: word ++ other → spelling <+: word ++ rest) :
    spelling? spellings (word ++ other) = none := by
  refine List.find?_eq_none.2 ?_
  intro spelling inside begins
  have begins := less spelling inside (List.isPrefixOf_iff_prefix.1 begins)
  exact List.find?_eq_none.1 unread spelling inside (List.isPrefixOf_iff_prefix.2 begins)

theorem number_lexeme_boundary (found : numberLexeme? (word ++ rest) = some word) :
    startsName rest = false := by
  simp only [numberLexeme?] at found
  split at found
  · cases found
  · rename_i ends
    have digits : (word ++ rest).takeWhile Char.isDigit = word := Option.some.inj found
    have behind : (word ++ rest).dropWhile Char.isDigit = rest := by
      have whole := List.takeWhile_append_dropWhile (p := Char.isDigit) (l := word ++ rest)
      rw [digits] at whole
      exact List.append_cancel_left whole
    rw [behind] at ends
    simp only [Bool.or_eq_true, not_or, Bool.not_eq_true] at ends
    exact ends.2

theorem lexeme_of_symbol {text : Text} (symbol : startsName text = false) : lexeme? text =
    ((spelling? chainOperators text).map (TokenKind.chainOperator, ·)).or
      (((spelling? operators text).map (TokenKind.operator, ·)).or
        (((regexLexeme? text).map (TokenKind.regex, ·)).or (markLexeme? text))) := by
  have noNumber : numberLexeme? text = none := by
    cases text with
    | nil => rfl
    | cons c rest =>
        cases digit : c.isDigit with
        | false => simp [numberLexeme?, digit]
        | true => exact Bool.noConfusion (symbol.symm.trans (digit_is_name_char digit))
  have noBlank : blankLexeme? text = none := by
    cases read : blankLexeme? text with
    | none => rfl
    | some blank =>
        obtain ⟨⟨rest, rfl⟩, rfl⟩ := blank_lexeme_eq_some read
        cases symbol
  rw [lexeme_eq, noNumber, noBlank]
  simp [identifierLexeme?, symbol]

theorem name_again {kind : TokenKind} (less : GoesOnLess word rest other)
    (starts : startsName word = true) (read : lexeme? (word ++ rest) = some (kind, word)) :
    lexeme? (word ++ other) = some (kind, word) := by
  have found := read
  rw [lexeme_of_name (starts_name_of_starts starts rest)] at found
  obtain ⟨rfl, number⟩ | found := or_map_eq_some found
  · have apart := number_lexeme_boundary number
    rw [number_lexeme_append apart] at number
    rw [lexeme_of_name (starts_name_of_starts starts other), number_lexeme_append (less.name apart),
      number]
    rfl
  obtain ⟨rfl, blank⟩ | found := or_map_eq_some found
  · obtain ⟨-, rfl⟩ := blank_lexeme_eq_some blank
    have apart : startsName rest = false := by
      simpa [blank_lexeme_cons] using blank
    have blankToo : blankLexeme? (['_', '_'] ++ other) = some ['_', '_'] := by
      simpa [blank_lexeme_cons] using less.name apart
    rw [lexeme_of_name (starts_name_of_starts starts other), blankToo]
    rfl
  · obtain ⟨rfl, whole⟩ := Prod.mk.inj (Option.some.inj found)
    have boundary := less.alternative (identifier_tail_boundary whole)
    exact (lexeme_append starts boundary).trans (lexeme_is_name read).lexeme

theorem mark_lexeme_again {mark : Char} : markLexeme? (mark :: rest) = markLexeme? (mark :: other) := by
  simp [markLexeme?, spelling?, List.isPrefixOf]

theorem symbol_again {kind : TokenKind} {c : Char} (less : GoesOnLess (c :: word) rest other)
    (symbol : isNameChar c = false) (read : lexeme? (c :: word ++ rest) = some (kind, c :: word)) :
    lexeme? (c :: word ++ other) = some (kind, c :: word) := by
  have chainLess := fun spelling inside =>
    less.spelling spelling (List.mem_append_left operators inside)
  have operatorLess := fun spelling inside =>
    less.spelling spelling (List.mem_append_right chainOperators inside)
  have apart (behind : Text) : startsName (c :: word ++ behind) = false := symbol
  rw [lexeme_of_symbol (apart rest)] at read
  rw [lexeme_of_symbol (apart other)]
  obtain chain | ⟨noChain, read⟩ := Option.or_eq_some_iff.1 read
  · obtain ⟨spelling, found, same⟩ := Option.map_eq_some_iff.1 chain
    cases same
    rw [spelling_again found chainLess]
    rfl
  rw [no_spelling_again (Option.map_eq_none_iff.1 noChain) chainLess]
  obtain operator | ⟨noOperator, read⟩ := Option.or_eq_some_iff.1 read
  · obtain ⟨spelling, found, same⟩ := Option.map_eq_some_iff.1 operator
    cases same
    rw [spelling_again found operatorLess]
    rfl
  rw [no_spelling_again (Option.map_eq_none_iff.1 noOperator) operatorLess]
  obtain regex | ⟨noRegex, read⟩ := Option.or_eq_some_iff.1 read
  · obtain ⟨literal, found, same⟩ := Option.map_eq_some_iff.1 regex
    cases same
    rw [(regex_lexeme_eq_some found).2.again]
    rfl
  have noSlash : c ≠ '/' := by
    rintro rfl
    cases read
  have noRegexToo : regexLexeme? (c :: word ++ other) = none := by
    unfold regexLexeme?
    split
    · rename_i opened
      exact absurd (List.cons.inj opened).1 noSlash
    · rfl
  rw [noRegexToo]
  exact mark_lexeme_again.trans read

theorem lexeme_again {kind : TokenKind} (less : GoesOnLess word rest other)
    (read : lexeme? (word ++ rest) = some (kind, word)) :
    lexeme? (word ++ other) = some (kind, word) := by
  cases word with
  | nil => exact absurd rfl (lexeme_read_by read).nonempty
  | cons c word =>
      cases starts : isNameChar c with
      | true => exact name_again less starts read
      | false => exact symbol_again less starts read

theorem GoesOnLess.cut (word front tail : Text) : GoesOnLess word (front ++ tail) front := by
  have name : ∀ front : Text, startsName (front ++ tail) = false → startsName front = false := by
    intro front apart
    cases front with
    | nil => rfl
    | cons c front => exact apart
  constructor
  · exact name front
  · rintro ⟨apart, alternatives⟩
    refine ⟨name front apart, ?_⟩
    rintro rest rfl
    exact name rest (alternatives (rest ++ tail) rfl)
  · intro spelling _ begins
    rw [← List.append_assoc]
    exact begins.trans (List.prefix_append _ _)

theorem prefix_before {spelling text behind : Text} {c : Char} (apart : c ∉ spelling)
    (begins : spelling <+: text ++ c :: behind) : spelling <+: text := by
  obtain within | ⟨further, rfl⟩ :=
    List.prefix_or_prefix_of_prefix begins (List.prefix_append text (c :: behind))
  · exact within
  · cases further with
    | nil => simp
    | cons d further =>
        obtain ⟨rfl, -⟩ := List.cons_prefix_cons.1 ((List.prefix_append_right_inj text).1 begins)
        exact absurd (by simp) apart

theorem GoesOnLess.trans {last : Text} (less : GoesOnLess word rest other)
    (lessToo : GoesOnLess word other last) : GoesOnLess word rest last where
  name apart := lessToo.name (less.name apart)
  alternative boundary := lessToo.alternative (less.alternative boundary)
  spelling spelling inside begins :=
    less.spelling spelling inside (lessToo.spelling spelling inside begins)

structure EndsNames (c : Char) : Prop where
  noName : isNameChar c = false
  noBar : c ≠ '|'

theorem starts_name_before {c : Char} (ends : EndsNames c) (front behind : Text) :
    startsName (front ++ c :: behind) = startsName front := starts_name_append ends.noName

theorem boundary_before {c : Char} (ends : EndsNames c) (front behind : Text) :
    Boundary (front ++ c :: behind) ↔ Boundary front := by
  cases front with
  | nil => exact ⟨fun _ => ⟨rfl, nofun⟩, fun _ => boundary_cons behind ends.noName ends.noBar⟩
  | cons d front =>
      constructor
      · rintro ⟨apart, alternatives⟩
        refine ⟨apart, ?_⟩
        rintro _ same
        obtain ⟨rfl, rfl⟩ := List.cons.inj same
        exact (starts_name_before ends front behind).symm.trans (alternatives _ rfl)
      · rintro ⟨apart, alternatives⟩
        refine ⟨apart, ?_⟩
        rintro _ same
        obtain ⟨rfl, rfl⟩ := List.cons.inj same
        exact (starts_name_before ends front behind).trans (alternatives front rfl)

theorem GoesOnLess.stop {c : Char} (ends : EndsNames c)
    (unspelt : ∀ spelling ∈ chainOperators ++ operators, c ∉ spelling) (word rest behind : Text) :
    GoesOnLess word rest (rest ++ c :: behind) := by
  constructor
  · exact fun apart => (starts_name_before ends rest behind).trans apart
  · exact (boundary_before ends rest behind).2
  · intro spelling inside begins
    rw [← List.append_assoc] at begins
    exact prefix_before (unspelt spelling inside) begins

theorem GoesOnLess.gap {c : Char} (blank : isGap c = true) (word rest behind : Text) :
    GoesOnLess word rest (rest ++ c :: behind) := by
  have ends : EndsNames c := by
    obtain rfl | rfl | rfl | rfl := gap_cases blank <;> exact ⟨by decide, by decide⟩
  have unspelt : ∀ spelling ∈ chainOperators ++ operators, spelling.any isGap = false := by decide
  exact .stop ends (fun spelling inside member =>
    List.any_eq_false.1 (unspelt spelling inside) c member blank) word rest behind

theorem prefix_through {spelling text behind other : Text} {c : Char}
    (last : c ∉ spelling.dropLast) (begins : spelling <+: text ++ c :: other) :
    spelling <+: text ++ c :: behind := by
  have split : text ++ c :: other = (text ++ [c]) ++ other := by simp
  rw [split] at begins
  have joined : text ++ c :: behind = (text ++ [c]) ++ behind := by simp
  rw [joined]
  obtain within | ⟨further, rfl⟩ :=
    List.prefix_or_prefix_of_prefix begins (List.prefix_append (text ++ [c]) other)
  · exact within.trans (List.prefix_append _ _)
  · cases further with
    | nil => simp
    | cons d further =>
        refine absurd ?_ last
        rw [List.dropLast_append_of_ne_nil (List.cons_ne_nil d further)]
        simp

-- What is behind a character that operators have at their ends alone is not seen either.
theorem GoesOnLess.through {c : Char} (ends : EndsNames c)
    (last : ∀ spelling ∈ chainOperators ++ operators, c ∉ spelling.dropLast)
    (word rest behind other : Text) :
    GoesOnLess word (rest ++ c :: behind) (rest ++ c :: other) := by
  constructor
  · rw [starts_name_before ends, starts_name_before ends]
    exact id
  · rw [boundary_before ends, boundary_before ends]
    exact id
  · intro spelling inside begins
    rw [← List.append_assoc] at begins ⊢
    exact prefix_through (last spelling inside) begins

end Again

end TreeQuery

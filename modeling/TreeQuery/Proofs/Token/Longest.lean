import TreeQuery.Proofs.Token.Form
import TreeQuery.Proofs.Token.Spacing
import TreeQuery.Proofs.Token.Unread

/- The longest word. The rules are tried in order, and each of them reads no more than one word.
   Yet nothing that has the form of a token is longer than the word that is read, but for the names
   that go on behind a bar where a number or a blank has ended. -/
set_option autoImplicit false

namespace TreeQuery

open Regex

-- A number or a blank ends at a bar that names go on behind.
def CutShort (kind : TokenKind) (rest : Text) : Prop :=
  (kind = .number ∨ kind = .blank) ∧ ∃ more, rest = '|' :: more ∧ startsName more = true

/-- The word has a form, and there is none that has one and is longer. Just where a number or a
blank is cut short there are longer ones, all of them identifiers. -/
structure Longest (kind : TokenKind) (word rest : Text) : Prop where
  form : Form kind word rest
  longest : ∀ other longer back, word ++ rest = longer ++ back → Form other longer back →
    longer.length ≤ word.length ∨ other = .identifier ∧ CutShort kind rest
  cut : CutShort kind rest → ∃ longer, identifierLexeme? (word ++ rest) = some longer ∧
    word.length < longer.length

section Names

variable {kind : TokenKind} {word rest : Text}

theorem number_lexeme_word (nonempty : word ≠ []) (digits : ∀ c ∈ word, c.isDigit = true)
    (ends : startsName rest = false) : numberLexeme? (word ++ rest) = some word := by
  have none : word.dropWhile Char.isDigit = [] := List.dropWhile_eq_nil_iff.2 digits
  have whole : word.takeWhile Char.isDigit = word := List.takeWhile_eq_self_iff.2 digits
  rw [number_lexeme_append ends]
  simp [numberLexeme?, none, whole, nonempty, startsName]

theorem spelling_head (inside : word ∈ chainOperators ++ operators) :
    ∃ c more, word = c :: more ∧ isNameChar c = false ∧ c ≠ '/' := by
  have heads : ∀ spelling ∈ chainOperators ++ operators,
      spelling.head?.any (fun c => !isNameChar c && c != '/') = true := by decide
  obtain ⟨c, first, apart⟩ := (Option.any_eq_true _ _).1 (heads word inside)
  obtain ⟨more, rfl⟩ := List.head?_eq_some_iff.1 first
  exact ⟨c, more, rfl, by simpa using apart⟩

theorem spelling_symbol (inside : word ∈ chainOperators ++ operators) (rest : Text) :
    startsName (word ++ rest) = false := by
  obtain ⟨c, more, rfl, noName, -⟩ := spelling_head inside
  exact noName

theorem Form.name_cases (form : Form kind word rest) (starts : startsName (word ++ rest) = true) :
    (kind = .number ∧ numberLexeme? (word ++ rest) = some word) ∨
      (kind = .blank ∧ word = ['_', '_'] ∧ startsName rest = false) ∨
        (kind = .identifier ∧ Alternatives word) := by
  cases form with
  | chainOperator inside =>
      rw [spelling_symbol (List.mem_append_left _ inside)] at starts
      cases starts
  | operator inside =>
      rw [spelling_symbol (List.mem_append_right _ inside)] at starts
      cases starts
  | regex => cases starts
  | number nonempty digits ends => exact .inl ⟨rfl, number_lexeme_word nonempty digits ends⟩
  | blank ends => exact .inr (.inl ⟨rfl, rfl, ends⟩)
  | identifier names => exact .inr (.inr ⟨rfl, names⟩)
  | mark named =>
      have apart : ∀ pair ∈ marks, isNameChar pair.2 = false := by decide
      exact Bool.noConfusion ((apart _ named).symm.trans starts)

theorem Form.chars (form : Form kind word rest) (isName : kind = .number ∨ kind = .blank) :
    word ≠ [] ∧ (∀ c ∈ word, isNameChar c = true) ∧ startsName rest = false := by
  cases form with
  | number nonempty digits ends =>
      exact ⟨nonempty, fun c inside => digit_is_name_char (digits c inside), ends⟩
  | blank ends => exact ⟨List.cons_ne_nil _ _, List.all_eq_true.1 (by decide), ends⟩
  | mark named =>
      have apart : ∀ pair ∈ marks, ¬ (pair.1 = .number ∨ pair.1 = .blank) := by decide
      exact absurd isName (apart _ named)
  | _ => simp at isName

theorem Form.longer (form : Form kind word rest) (cut : CutShort kind rest) :
    ∃ longer, identifierLexeme? (word ++ rest) = some longer ∧ word.length < longer.length := by
  obtain ⟨isName, more, rfl, startsMore⟩ := cut
  obtain ⟨nonempty, chars, -⟩ := form.chars isName
  refine ⟨_, if_pos (starts_name_word nonempty chars _), ?_⟩
  rw [identifier_tail_word chars, identifier_tail_bar startsMore, List.length_append,
    List.length_cons]
  omega

theorem name_longest {other : TokenKind} {longer back : Text}
    (read : lexeme? (word ++ rest) = some (kind, word)) (starts : startsName (word ++ rest) = true)
    (same : word ++ rest = longer ++ back) (form : Form other longer back) :
    longer.length ≤ word.length ∨ other = .identifier ∧ CutShort kind rest := by
  have rules := lexeme_of_name starts
  rw [read] at rules
  rw [same] at starts
  obtain ⟨-, number⟩ | ⟨-, rfl, ends⟩ | ⟨isIdentifier, names⟩ := form.name_cases starts
  · rw [same, number] at rules
    cases rules
    exact .inl (Nat.le_refl _)
  · have blank : blankLexeme? (['_', '_'] ++ back) = some ['_', '_'] := by
      simpa [blank_lexeme_cons] using ends
    rw [same, blank] at rules
    cases rules
    exact .inl (Nat.le_refl _)
  · have within : longer <+: identifierTail (word ++ rest) := same ▸ names.within back
    obtain ⟨back, split, formWord⟩ := (lexeme_read_by read).form
    cases List.append_cancel_left split
    have short : kind = .number ∨ kind = .blank →
        longer.length ≤ word.length ∨ other = .identifier ∧ CutShort kind rest := by
      intro isName
      obtain ⟨-, chars, ends⟩ := formWord.chars isName
      by_cases boundary : Boundary rest
      · rw [identifier_tail_word chars, identifier_tail_boundary_eq boundary,
          List.append_nil] at within
        exact .inl within.length_le
      · exact .inr ⟨isIdentifier, isName, goes_on_of_not_boundary ends boundary⟩
    obtain ⟨rfl, -⟩ | rules := or_map_eq_some rules.symm
    · exact short (.inl rfl)
    obtain ⟨rfl, -⟩ | rules := or_map_eq_some rules
    · exact short (.inr rfl)
    rw [(Prod.mk.inj (Option.some.inj rules)).2] at within
    exact .inl within.length_le

end Names

-- Of the spellings that a text begins with, the first one is the longest if none goes on in a later
-- one.
theorem spelling_longest {spellings : List Text} {text word other : Text}
    (ordered : spellings.Pairwise fun early late => early <+: late → late.length ≤ early.length)
    (found : spelling? spellings text = some word) (inside : other ∈ spellings)
    (begins : other <+: text) : other.length ≤ word.length := by
  obtain ⟨beginsWord, earlier, later, rfl, apart⟩ := List.find?_eq_some_iff_append.1 found
  rw [List.isPrefixOf_iff_prefix] at beginsWord
  obtain early | same | late : other ∈ earlier ∨ other = word ∨ other ∈ later := by
    simpa using inside
  · exact absurd (apart other early) (by simp [List.isPrefixOf_iff_prefix.2 begins])
  · exact same ▸ Nat.le_refl _
  · have goesOn := (List.pairwise_cons.1 (List.pairwise_append.1 ordered).2.1).1 other late
    obtain short | long := Nat.le_total other.length word.length
    · exact short
    · exact goesOn (List.prefix_of_prefix_length_le beginsWord begins long)

theorem spellings_ordered : (chainOperators ++ operators).Pairwise
    fun early late => early <+: late → late.length ≤ early.length := by decide +kernel

-- Of two regexes at one place, the closing slash of the one that is read comes last: to go on
-- behind it, the other would need a backslash in front of it.
theorem regex_longest {text word body : Text} (read : regexLexeme? text = some word)
    (isBody : RegexBody body) (begins : '/' :: (body ++ ['/']) <+: text) :
    ('/' :: (body ++ ['/'])).length ≤ word.length := by
  have beginsWord := (regex_lexeme_eq_some read).1
  obtain ⟨pattern, writable, rfl⟩ := regex_lexeme_literal read
  by_contra longer
  obtain ⟨more, split⟩ := List.prefix_of_prefix_length_le beginsWord begins (by omega)
  obtain rfl | ⟨inner, last, rfl⟩ := List.eq_nil_or_concat' more
  · rw [← split, List.append_nil] at longer
    exact longer (Nat.le_refl _)
  · have bodies : escape pattern ++ '/' :: inner = body := by
      have inside : escape pattern ++ ['/'] ++ (inner ++ [last]) = body ++ ['/'] :=
        (List.cons.inj split).2
      rw [← List.append_assoc] at inside
      simpa using (List.append_inj' inside rfl).1
    have escaped := isBody.escaped _ _ bodies.symm
    obtain ⟨front, c, rfl⟩ := (List.eq_nil_or_concat' pattern).resolve_left writable.nonempty
    have ends := escape_last (List.getLast?_concat (l := front) (a := c))
    cases ends.symm.trans escaped
    exact writable.closed (List.getLast?_concat ..)

section Symbols

variable {kind : TokenKind} {word rest text : Text}

theorem symbol_read (symbol : startsName text = false) (read : lexeme? text = some (kind, word)) :
    spelling? (chainOperators ++ operators) text = some word ∨ regexLexeme? text = some word ∨
      spelling? (chainOperators ++ operators) text = none ∧ ∃ mark, (kind, mark) ∈ marks ∧
        word = [mark] := by
  have spelt : spelling? (chainOperators ++ operators) text =
      (spelling? chainOperators text).or (spelling? operators text) := List.find?_append
  rw [spelt]
  rw [lexeme_of_symbol symbol] at read
  obtain chain | ⟨noChain, read⟩ := Option.or_eq_some_iff.1 read
  · obtain ⟨_, found, same⟩ := Option.map_eq_some_iff.1 chain
    cases same
    exact .inl (by rw [found, Option.some_or])
  rw [Option.map_eq_none_iff.1 noChain, Option.none_or]
  obtain operator | ⟨noOperator, read⟩ := Option.or_eq_some_iff.1 read
  · obtain ⟨_, found, same⟩ := Option.map_eq_some_iff.1 operator
    cases same
    exact .inl found
  obtain regex | ⟨-, read⟩ := Option.or_eq_some_iff.1 read
  · obtain ⟨_, found, same⟩ := Option.map_eq_some_iff.1 regex
    cases same
    exact .inr (.inl found)
  · obtain ⟨⟨other, mark⟩, named, same⟩ := List.exists_of_findSome?_eq_some read
    obtain ⟨spelt, found, pair⟩ := Option.map_eq_some_iff.1 same
    cases pair
    exact .inr (.inr ⟨Option.map_eq_none_iff.1 noOperator, mark, named,
      List.mem_singleton.1 (spelling_eq_some found).1⟩)

theorem Form.symbol_cases (form : Form kind word rest)
    (symbol : startsName (word ++ rest) = false) :
    word ∈ chainOperators ++ operators ∨
      (∃ body, RegexBody body ∧ word = '/' :: (body ++ ['/'])) ∨
        ∃ mark, (kind, mark) ∈ marks ∧ word = [mark] := by
  cases form with
  | chainOperator inside => exact .inl (List.mem_append_left _ inside)
  | operator inside => exact .inl (List.mem_append_right _ inside)
  | regex isBody => exact .inr (.inl ⟨_, isBody, rfl⟩)
  | number nonempty digits _ =>
      have chars : ∀ c ∈ word, isNameChar c = true :=
        fun c inside => digit_is_name_char (digits c inside)
      cases (starts_name_word nonempty chars rest).symm.trans symbol
  | blank => cases symbol
  | identifier names => cases (names.starts rest).symm.trans symbol
  | mark named => exact .inr (.inr ⟨_, named, rfl⟩)

theorem mark_not_slash {mark : Char} (named : (kind, mark) ∈ marks) : mark ≠ '/' := by
  have apart : ∀ pair ∈ marks, pair.2 ≠ '/' := by decide
  exact apart _ named

theorem symbol_longest {other : TokenKind} {longer back : Text}
    (read : lexeme? (word ++ rest) = some (kind, word)) (symbol : startsName (word ++ rest) = false)
    (same : word ++ rest = longer ++ back) (form : Form other longer back) :
    longer.length ≤ word.length := by
  have wide := List.length_pos_iff.2 (lexeme_read_by read).nonempty
  have begins : longer <+: word ++ rest := same ▸ List.prefix_append longer back
  obtain spelt | ⟨body, isBody, rfl⟩ | ⟨mark, named, rfl⟩ := form.symbol_cases (same ▸ symbol)
  · obtain found | regex | ⟨unspelt, -⟩ := symbol_read symbol read
    · exact spelling_longest spellings_ordered found spelt begins
    · obtain ⟨pattern, -, rfl⟩ := regex_lexeme_literal regex
      obtain ⟨c, more, rfl, -, apart⟩ := spelling_head spelt
      exact absurd (List.cons.inj same).1.symm apart
    · exact absurd unspelt (spelling_of_mem spelt begins)
  · obtain found | regex | ⟨-, mark, named, rfl⟩ := symbol_read symbol read
    · obtain ⟨c, more, rfl, -, apart⟩ := spelling_head (spelling_eq_some found).1
      exact absurd (List.cons.inj same).1 apart
    · exact regex_longest regex isBody begins
    · exact absurd (List.cons.inj same).1 (mark_not_slash named)
  · exact wide

end Symbols

theorem lexeme_longest {kind : TokenKind} {word rest : Text}
    (read : lexeme? (word ++ rest) = some (kind, word)) : Longest kind word rest := by
  obtain ⟨back, split, form⟩ := (lexeme_read_by read).form
  cases List.append_cancel_left split
  refine ⟨form, fun other longer back same formLonger => ?_, form.longer⟩
  cases starts : startsName (word ++ rest) with
  | true => exact name_longest read starts same formLonger
  | false => exact .inl (symbol_longest read starts same formLonger)

theorem Layout.read {front text : Text} {tokens : List Token} (layout : Layout front text tokens) :
    ∀ token ∈ tokens, token.kind ≠ .endOfInput → ∃ before rest,
      front ++ text = before ++ (token.text ++ rest) ∧
        token.position = Position.start.afterAll before ∧
          lexeme? (token.text ++ rest) = some (token.kind, token.text) := by
  induction layout with
  | ending _ =>
      rw [List.forall_mem_singleton]
      exact fun apart => absurd rfl apart
  | @token front gap word rest kind tokens _ read _ ih =>
      rw [List.forall_mem_cons]
      constructor
      · exact fun _ => ⟨front ++ gap, rest, by simp, rfl, read⟩
      · simpa using ih

theorem rule_read_by {rule : LexicalRule} (inside : rule ∈ lexicalRules) {text word : Text}
    (read : rule.lexeme? text = some word) : ReadBy text rule.kind word := by
  simp only [lexicalRules, List.mem_append, List.mem_cons, List.not_mem_nil, or_false] at inside
  rcases inside with (rfl | rfl | rfl | rfl | rfl | rfl) | inside
  · exact .chainOperator read
  · exact .operator read
  · exact .regex read
  · exact .number read
  · exact .blank read
  · exact .identifier read
  · obtain ⟨⟨kind, mark⟩, named, rfl⟩ := List.mem_map.1 inside
    obtain ⟨only, begins⟩ := spelling_eq_some read
    cases List.mem_singleton.1 only
    exact .mark named begins

theorem Longest.rule {kind : TokenKind} {word rest longer : Text} {rule : LexicalRule}
    (longest : Longest kind word rest) (inside : rule ∈ lexicalRules)
    (read : rule.lexeme? (word ++ rest) = some longer) :
    longer.length ≤ word.length ∨ rule.kind = .identifier ∧ CutShort kind rest := by
  obtain ⟨back, split, form⟩ := (rule_read_by inside read).form
  exact longest.longest rule.kind longer back split form

theorem rule_of_read {kind : TokenKind} {text word : Text}
    (read : lexeme? text = some (kind, word)) :
    ∃ rule ∈ lexicalRules, rule.kind = kind ∧ rule.lexeme? text = some word := by
  obtain ⟨rule, inside, same⟩ := List.exists_of_findSome?_eq_some read
  obtain ⟨_, found, pair⟩ := Option.map_eq_some_iff.1 same
  cases pair
  exact ⟨rule, inside, rfl, found⟩

/-- Every token is read by a rule of its kind, and no rule reads a longer word at its place: there
is none that has the form of a token, where the forms are those of all that the rules read. The one
exception is a number or a blank that ends at a bar with a name behind it: an identifier would go
on there. -/
theorem tokenize_longest :
    (∀ text tokens, tokenize text = .ok tokens → ∀ token ∈ tokens, token.kind ≠ .endOfInput →
      ∃ before rest, text = before ++ (token.text ++ rest) ∧
        token.position = Position.start.afterAll before ∧
        (∃ rule ∈ lexicalRules, rule.kind = token.kind ∧
          rule.lexeme? (token.text ++ rest) = some token.text) ∧
        (∀ rule ∈ lexicalRules, ∀ longer, rule.lexeme? (token.text ++ rest) = some longer →
          longer.length ≤ token.text.length ∨
            rule.kind = .identifier ∧ CutShort token.kind rest) ∧
        Longest token.kind token.text rest) ∧
    (∀ rule ∈ lexicalRules, ∀ text word, rule.lexeme? text = some word →
      ∃ rest, text = word ++ rest ∧ Form rule.kind word rest) ∧
    (tokenize "2|NP".toList).map (List.map Token.word) = .ok [(.number, ['2']), (.pipe, ['|']),
      (.identifier, "NP".toList), (.endOfInput, [])] ∧
    (tokenize "__|NP".toList).map (List.map Token.word) = .ok [(.blank, ['_', '_']), (.pipe, ['|']),
      (.identifier, "NP".toList), (.endOfInput, [])] ∧
    (tokenize "NP|2".toList).map (List.map Token.word) =
      .ok [(.identifier, "NP|2".toList), (.endOfInput, [])] := by
  refine ⟨fun text tokens tokenized token inside apart => ?_, fun rule inside text word read => ?_,
    by decide +kernel, by decide +kernel, by decide +kernel⟩
  · obtain ⟨before, rest, split, place, read⟩ :=
      (tokenize_layout tokenized).read token inside apart
    have longest := lexeme_longest read
    exact ⟨before, rest, split, place, rule_of_read read,
      fun rule isRule longer found => longest.rule isRule found, longest⟩
  · exact (rule_read_by inside read).form

theorem tokenize_longest_cut :
    let text := "é<<-10|b".toList
    let number : Token := ⟨.number, "10".toList, ⟨5, 1, 5⟩⟩
    let identifiers : LexicalRule := ⟨.identifier, identifierLexeme?⟩
    ∃ tokens, tokenize text = .ok tokens ∧ number ∈ tokens ∧ number.kind ≠ .endOfInput ∧
      (∃ before rest, text = before ++ (number.text ++ rest) ∧
        number.position = Position.start.afterAll before ∧ Longest .number "10".toList rest) ∧
      identifiers ∈ lexicalRules ∧ identifiers.lexeme? "10|b".toList = some "10|b".toList ∧
      ∃ rest, "10|b".toList = "10|b".toList ++ rest ∧ Form .identifier "10|b".toList rest := by
  intro text number identifiers
  let tokens : List Token := [⟨.identifier, ['é'], ⟨0, 1, 1⟩⟩, ⟨.operator, "<<-".toList, ⟨2, 1, 2⟩⟩,
    number, ⟨.pipe, ['|'], ⟨7, 1, 7⟩⟩, ⟨.identifier, ['b'], ⟨8, 1, 8⟩⟩,
    ⟨.endOfInput, [], ⟨9, 1, 9⟩⟩]
  have tokenized : tokenize text = .ok tokens := by decide +kernel
  have inside : number ∈ tokens := by simp [tokens]
  have isRule : identifiers ∈ lexicalRules := by simp [lexicalRules, identifiers]
  have read : identifiers.lexeme? "10|b".toList = some "10|b".toList := by decide
  obtain ⟨before, rest, split, place, -, -, longest⟩ :=
    tokenize_longest.1 text tokens tokenized number inside (by decide)
  exact ⟨tokens, tokenized, inside, by decide, ⟨before, rest, split, place, longest⟩, isRule, read,
    tokenize_longest.2.1 identifiers isRule _ _ read⟩

end TreeQuery

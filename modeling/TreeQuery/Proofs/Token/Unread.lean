import TreeQuery.Proofs.Token.RegexLiteral

/- Texts that cannot be read. A walk stops in front of one of three characters and nowhere else:
   a percent sign, a colon behind no operator that goes on with it, and a slash that opens no
   literal. All in front of that place is read, and it is read again whatever else stands there
   that begins no token. -/
set_option autoImplicit false

namespace TreeQuery

open Regex

def StartsLiteral (text : Text) : Prop := ∃ pattern, Writable pattern ∧ literal pattern <+: text

-- The front is cut into gaps and lexemes, each read with what stands behind it.
inductive ReadBefore (rest : Text) : Text → Prop where
  | nil : ReadBefore rest []
  | gap {c : Char} {front : Text} (blank : isGap c = true) (others : ReadBefore rest front) :
      ReadBefore rest (c :: front)
  | token {kind : TokenKind} {word front : Text}
      (read : lexeme? (word ++ (front ++ rest)) = some (kind, word))
      (others : ReadBefore rest front) : ReadBefore rest (word ++ front)

structure Unread (c : Char) (behind : Text) : Prop where
  noGap : isGap c = false
  noToken : lexeme? (c :: behind) = none

theorem Unread.scan {c : Char} {behind : Text} (unread : Unread c behind) (here : Position) :
    scan 0 here (c :: behind) = .error here := by
  have noGap : ¬ isGap c = true := by simp [unread.noGap]
  rw [TreeQuery.scan, if_neg noGap, unread.noToken]

theorem scan_lexeme_stopped {here place : Position} {text word : Text} {kind : TokenKind}
    (read : lexeme? text = some (kind, word)) (stopped : scan 0 here text = .error place) :
    ∃ back, text = word ++ back ∧ back.length < text.length ∧
      scan 0 (here.afterAll word) back = .error place := by
  have readBy := lexeme_read_by read
  obtain ⟨back, rfl⟩ := readBy.lexeme_prefix
  obtain ⟨c, word, rfl⟩ := List.exists_cons_of_ne_nil readBy.nonempty
  have shorter : back.length < (c :: word ++ back).length := by
    rw [List.length_append, List.length_cons]
    omega
  refine ⟨back, rfl, shorter, ?_⟩
  rw [scan_lexeme here read] at stopped
  cases later : scan 0 (here.afterAll (c :: word)) back with
  | ok tokens =>
      rw [later] at stopped
      cases stopped
  | error there =>
      rw [later] at stopped
      cases stopped
      rfl

theorem scan_read_before {here place : Position} {text : Text}
    (stopped : scan 0 here text = .error place) :
    ∃ front c behind, text = front ++ c :: behind ∧ ReadBefore (c :: behind) front ∧
      Unread c behind ∧ place = here.afterAll front := by
  -- A token may be of any length, so the induction is on that of the text.
  induction length : text.length using Nat.strongRecOn generalizing here text with
  | ind bound ih =>
      subst length
      cases text with
      | nil => cases stopped
      | cons c rest =>
          cases blank : isGap c with
          | true =>
              rw [scan, if_pos blank] at stopped
              obtain ⟨front, d, behind, rfl, read, unread, place⟩ :=
                ih rest.length (by simp) stopped rfl
              exact ⟨c :: front, d, behind, rfl, .gap blank read, unread, place⟩
          | false =>
              cases read : lexeme? (c :: rest) with
              | none =>
                  have unread : Unread c rest := ⟨blank, read⟩
                  cases (unread.scan here).symm.trans stopped
                  exact ⟨[], c, rest, rfl, .nil, unread, rfl⟩
              | some found =>
                  obtain ⟨back, split, shorter, stoppedBehind⟩ := scan_lexeme_stopped read stopped
                  obtain ⟨front, d, behind, rfl, before, unread, rfl⟩ :=
                    ih back.length shorter stoppedBehind rfl
                  rw [split] at read ⊢
                  refine ⟨found.2 ++ front, d, behind, ?_, .token read before, unread, ?_⟩
                  · rw [List.append_assoc]
                  · rw [Position.after_all_append]

namespace ReadBefore

variable {rest other front : Text}

theorem again (read : ReadBefore rest front)
    (less : ∀ word back, GoesOnLess word (back ++ rest) (back ++ other)) :
    ReadBefore other front := by
  induction read with
  | nil => exact .nil
  | gap blank _ ih => exact .gap blank ih
  | @token kind word front read _ ih => exact .token (lexeme_again (less word front) read) ih

theorem scan (read : ReadBefore rest front) (here : Position) :
    ∃ tokens, TreeQuery.scan 0 here (front ++ rest) =
      (TreeQuery.scan 0 (here.afterAll front) rest).map (tokens ++ ·) := by
  induction read generalizing here with
  | nil => exact ⟨[], by cases scanned : TreeQuery.scan 0 here rest <;> simp [scanned, Except.map]⟩
  | @gap c front blank _ ih =>
      obtain ⟨tokens, scanned⟩ := ih (here.after c)
      refine ⟨tokens, ?_⟩
      rw [List.cons_append, TreeQuery.scan, if_pos blank, scanned, Position.after_all_cons]
  | @token kind word front read _ ih =>
      obtain ⟨c, word, rfl⟩ := List.exists_cons_of_ne_nil (lexeme_read_by read).nonempty
      obtain ⟨tokens, scanned⟩ := ih (here.afterAll (c :: word))
      refine ⟨⟨kind, c :: word, here⟩ :: tokens, ?_⟩
      rw [List.append_assoc, scan_lexeme here read, scanned, Position.after_all_append]
      cases TreeQuery.scan 0 ((here.afterAll (c :: word)).afterAll front) rest <;> rfl

theorem tokenized (read : ReadBefore [] front) : ∃ tokens, tokenize front = .ok tokens := by
  obtain ⟨tokens, scanned⟩ := read.scan .start
  rw [List.append_nil] at scanned
  exact ⟨_, tokenize_eq_ok.2 scanned⟩

end ReadBefore

def FailsAt (place : Position) (text : Text) : Prop :=
  ∃ error, tokenize text = .error error ∧ error.position = place

theorem ReadBefore.fails {front behind : Text} {c : Char} (read : ReadBefore (c :: behind) front)
    (unread : Unread c behind) : FailsAt (Position.start.afterAll front) (front ++ c :: behind) := by
  obtain ⟨tokens, scanned⟩ := read.scan .start
  rw [unread.scan] at scanned
  exact ⟨_, tokenize_eq_error.2 ⟨_, scanned, rfl⟩, rfl⟩

theorem regex_lexeme_starts {text : Text} (unread : regexLexeme? text = none) :
    ¬ StartsLiteral text := by
  rintro ⟨pattern, writable, behind, rfl⟩
  have lexeme : lexeme? (literal pattern) = some (.regex, literal pattern) := by
    rw [lexeme_literal writable.nonempty, regex_tail_escape writable.oneLine writable.closed]
    rfl
  have again := (lexeme_read_by lexeme).is_regex.again behind
  rw [unread] at again
  cases again

theorem spelling_of_mem {spellings : List Text} {text spelling : Text} (inside : spelling ∈ spellings)
    (begins : spelling <+: text) : spelling? spellings text ≠ none := by
  intro unread
  exact List.find?_eq_none.1 unread spelling inside (List.isPrefixOf_iff_prefix.2 begins)

theorem Unread.cases {c : Char} {behind : Text} (unread : Unread c behind) :
    c = '%' ∨ c = ':' ∨ c = '/' ∧ ¬ StartsLiteral (c :: behind) := by
  have noName : startsName (c :: behind) = false := by
    rw [Bool.eq_false_iff]
    intro starts
    have read := lexeme_of_name starts
    rw [unread.noToken] at read
    simp at read
  have noToken := unread.noToken
  simp only [lexeme_of_symbol noName, Option.or_eq_none_iff,
    Option.map_eq_none_iff] at noToken
  obtain ⟨-, noOperator, noRegex, noMark⟩ := noToken
  have notOperator : [c] ∉ operators := fun inside =>
    spelling_of_mem inside (List.prefix_append [c] behind) noOperator
  have notMark : c ∉ marks.map Prod.snd := by
    intro inside
    obtain ⟨⟨kind, mark⟩, named, rfl⟩ := List.mem_map.1 inside
    have unspelt := List.findSome?_eq_none_iff.1 noMark _ named
    exact spelling_of_mem List.mem_cons_self (List.prefix_append [mark] behind)
      (Option.map_eq_none_iff.1 unspelt)
  have isReserved : c ∈ reserved := by simpa [startsName, isNameChar] using noName
  have left : (reserved.filter fun c => isGap c = false ∧ [c] ∉ operators ∧
      c ∉ marks.map Prod.snd) = ['/', '%', ':'] := by decide
  have inLeft : c ∈ ['/', '%', ':'] := by
    rw [← left]
    exact List.mem_filter.2 ⟨isReserved, decide_eq_true ⟨unread.noGap, notOperator, notMark⟩⟩
  simp only [List.mem_cons, List.not_mem_nil, or_false] at inLeft
  rcases inLeft with slash | percent | colon
  · exact .inr (.inr ⟨slash, regex_lexeme_starts noRegex⟩)
  · exact .inl percent
  · exact .inr (.inl colon)

theorem unread_percent (behind : Text) : Unread '%' behind := ⟨rfl, rfl⟩

theorem unread_colon (behind : Text) : Unread ':' behind := ⟨rfl, rfl⟩

section Replaced

variable {front behind : Text} {c : Char} (read : ReadBefore (c :: behind) front)

include read

theorem ReadBefore.cut : ReadBefore [] front := by
  apply read.again
  intro word back
  rw [List.append_nil]
  exact .cut word back (c :: behind)

theorem ReadBefore.percent (later : Text) : ReadBefore ('%' :: later) front := by
  apply read.again
  intro word back
  have unspelt : ∀ spelling ∈ chainOperators ++ operators, '%' ∉ spelling := by decide
  exact (GoesOnLess.cut word back (c :: behind)).trans
    (.stop ⟨by decide, by decide⟩ unspelt word back later)

end Replaced

theorem ReadBefore.colon {front behind : Text} (read : ReadBefore (':' :: behind) front)
    (later : Text) : ReadBefore (':' :: later) front := by
  apply read.again
  intro word back
  have last : ∀ spelling ∈ chainOperators ++ operators, ':' ∉ spelling.dropLast := by decide
  exact .through ⟨by decide, by decide⟩ last word back behind later

/-- A text that cannot be read is read up to a percent sign, a colon or a slash that opens no
literal, and it fails there: what is in front of that place is a text that can be read, and with a
percent sign, or a colon for a colon, in that place it fails there too whatever comes behind. So a
text with none of the three characters can always be read. -/
theorem tokenize_error_exact :
    (∀ (text : Text) (error : LexicalError), tokenize text = .error error →
      ∃ front c behind, text = front ++ c :: behind ∧
        error.position = Position.start.afterAll front ∧
        error.position.offset = front.byteLength ∧
        (∃ tokens, tokenize front = .ok tokens) ∧
        (c = '%' ∨ c = ':' ∨ c = '/' ∧ ¬ StartsLiteral (c :: behind)) ∧
        (∀ later, FailsAt error.position (front ++ '%' :: later)) ∧
        (c = ':' → ∀ later, FailsAt error.position (front ++ ':' :: later))) ∧
    ∀ text : Text, '%' ∉ text → ':' ∉ text → '/' ∉ text → ∃ tokens, tokenize text = .ok tokens := by
  constructor
  · intro text error stopped
    obtain ⟨place, scanned, rfl⟩ := tokenize_eq_error.1 stopped
    obtain ⟨front, c, behind, rfl, read, unread, rfl⟩ := scan_read_before scanned
    refine ⟨front, c, behind, rfl, rfl, ?_, read.cut.tokenized, unread.cases, ?_, ?_⟩
    · rw [Position.offset_after_all]
      exact Nat.zero_add _
    · exact fun later => (read.percent later).fails (unread_percent later)
    · rintro rfl later
      exact (read.colon later).fails (unread_colon later)
  · intro text noPercent noColon noSlash
    cases tokenized : tokenize text with
    | ok tokens => exact ⟨tokens, rfl⟩
    | error error =>
        obtain ⟨place, scanned, -⟩ := tokenize_eq_error.1 tokenized
        obtain ⟨front, c, behind, rfl, -, unread, -⟩ := scan_read_before scanned
        rcases unread.cases with rfl | rfl | ⟨rfl, -⟩
        · exact absurd (by simp) noPercent
        · exact absurd (by simp) noColon
        · exact absurd (by simp) noSlash

theorem tokenize_error_exact_colon :
    let text := "é<:\n$:/b/".toList
    let clean := "ü<<-2\u00a0(__|b)\\;\r\n=!$".toList
    (∃ error, tokenize text = .error error ∧ error.position = ⟨6, 2, 2⟩ ∧
      ∃ front c behind, text = front ++ c :: behind ∧ front.byteLength = 6 ∧
        (∃ tokens, tokenize front = .ok tokens) ∧
        (c = '%' ∨ c = ':' ∨ c = '/' ∧ ¬ StartsLiteral (c :: behind)) ∧
        (∀ later, FailsAt ⟨6, 2, 2⟩ (front ++ '%' :: later)) ∧
        (c = ':' → ∀ later, FailsAt ⟨6, 2, 2⟩ (front ++ ':' :: later))) ∧
      '%' ∉ clean ∧ ':' ∉ clean ∧ '/' ∉ clean ∧ ∃ tokens, tokenize clean = .ok tokens := by
  intro text clean
  constructor
  · have stopped : tokenize text = .error ⟨⟨6, 2, 2⟩, "$:/b/".toList⟩ := by decide +kernel
    obtain ⟨front, c, behind, split, -, offset, read, cases, percent, colon⟩ :=
      tokenize_error_exact.1 text _ stopped
    exact ⟨_, stopped, rfl, front, c, behind, split, offset.symm, read, cases, percent, colon⟩
  · have noPercent : '%' ∉ clean := by decide
    have noColon : ':' ∉ clean := by decide
    have noSlash : '/' ∉ clean := by decide
    exact ⟨noPercent, noColon, noSlash,
      tokenize_error_exact.2 clean noPercent noColon noSlash⟩

end TreeQuery

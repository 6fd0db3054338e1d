import TreeQuery.Proofs.Token.Layout
import TreeQuery.Proofs.Token.Lookahead
import Mathlib.Logic.Relation

/- Texts that are put together with a gap between them. No token goes on behind a gap, so
   the tokens of the whole are those of the parts, each at the place that its part has in
   the whole, and how wide the gaps are makes no difference to what the tokens are. -/
set_option autoImplicit false

namespace TreeQuery

def Position.behind (front : Text) (place : Position) : Position :=
  ⟨front.byteLength + place.offset, front.count '\n' + place.line,
    if place.line = 1 then front.lastLine.length + place.column else place.column⟩

def Token.behind (front : Text) (token : Token) : Token :=
  { token with position := token.position.behind front }

namespace Position

variable {place : Position}

theorem behind_start (front : Text) : start.behind front = start.afterAll front := by
  rw [start_after_all]
  simp [behind, start, Nat.add_comm]

-- Lines are counted from one: on the first one alone the columns go on from `front`.

theorem after_counted (counted : 0 < place.line) (c : Char) : 0 < (place.after c).line := by
  unfold after
  split <;> simp [counted]

theorem behind_after (counted : 0 < place.line) (front : Text) (c : Char) :
    (place.behind front).after c = (place.after c).behind front := by
  by_cases feed : c = '\n'
  · simp [after, behind, feed]
    omega
  · by_cases first : place.line = 1 <;> simp [after, behind, feed, first, Nat.add_assoc]

end Position

theorem scan_behind (front : Text) {pending : Nat} {here : Position} {text : Text}
    (counted : 0 < here.line) : scan pending (here.behind front) text =
      ((scan pending here text).map (List.map (Token.behind front))).mapError
        (Position.behind front) := by
  fun_induction scan pending here text with
  | case1 pending here => rfl
  | case2 pending here c rest ih =>
      rw [scan, Position.behind_after counted]
      exact ih (Position.after_counted counted c)
  | case3 here c rest blank ih =>
      rw [scan, if_pos blank, Position.behind_after counted]
      exact ih (Position.after_counted counted c)
  | case4 here c rest noGap unread =>
      rw [scan, if_neg noGap, unread]
      rfl
  | case5 here c rest noGap kind lexeme read place stopped ih =>
      have there := ih (Position.after_counted counted c)
      rw [stopped] at there
      rw [scan, if_neg noGap, read, Position.behind_after counted]
      simp only [there]
      rfl
  | case6 here c rest noGap kind lexeme read tokens scanned ih =>
      have there := ih (Position.after_counted counted c)
      rw [scanned] at there
      rw [scan, if_neg noGap, read, Position.behind_after counted]
      simp only [there]
      rfl

-- What the walk has read before a gap it has read for good.
theorem scan_before_gap {c : Char} (blank : isGap c = true) (behind : Text) {pending : Nat}
    {here : Position} {text : Text} {body : List Token} {final : Token}
    (enough : pending ≤ text.length) (scanned : scan pending here text = .ok (body ++ [final])) :
    scan pending here (text ++ c :: behind) =
      (scan 0 (here.afterAll text) (c :: behind)).map (body ++ ·) := by
  fun_induction scan pending here text generalizing body final with
  | case1 pending here =>
      have ends : [] ++ [_] = body ++ [final] := Except.ok.inj scanned
      obtain ⟨rfl, -⟩ := List.append_inj' ends rfl
      cases Nat.le_zero.1 enough
      change scan 0 here (c :: behind) = (scan 0 here (c :: behind)).map _
      cases scan 0 here (c :: behind) <;> rfl
  | case2 pending here d rest ih => exact ih (Nat.le_of_succ_le_succ enough) scanned
  | case3 here d rest gap ih =>
      rw [List.cons_append, scan, if_pos gap]
      exact ih (Nat.zero_le _) scanned
  | case4 => cases scanned
  | case5 => cases scanned
  | case6 here d rest noGap kind lexeme read others scannedRest ih =>
      obtain ⟨inner, last, rfl, -⟩ := scan_lexed scannedRest
      have ends : ⟨kind, lexeme, here⟩ :: inner ++ [last] = body ++ [final] :=
        Except.ok.inj scanned
      obtain ⟨rfl, -⟩ := List.append_inj' ends rfl
      have readBy := lexeme_read_by read
      obtain ⟨back, split⟩ := readBy.lexeme_prefix
      have readToo : lexeme? (d :: (rest ++ c :: behind)) = some (kind, lexeme) := by
        rw [← List.cons_append, ← split, List.append_assoc]
        rw [← split] at read
        exact lexeme_again (.gap blank lexeme back behind) read
      have inside : lexeme.length - 1 ≤ rest.length := by
        have length := congrArg List.length split
        simp only [List.length_append, List.length_cons] at length
        omega
      rw [List.cons_append, scan, if_neg noGap, readToo]
      simp only [ih inside scannedRest, Position.after_all_cons]
      cases scan 0 ((here.after d).afterAll rest) (c :: behind) <;> rfl

theorem scan_start_behind (front text : Text) : scan 0 (Position.start.afterAll front) text =
    ((scan 0 .start text).map (List.map (Token.behind front))).mapError
      (Position.behind front) := by
  rw [← Position.behind_start]
  exact scan_behind front Nat.one_pos

theorem scan_spaced {front gap : Text} {body : List Token} {final : Token} (spaced : gap ≠ [])
    (blank : ∀ c ∈ gap, isGap c = true) (scanned : scan 0 .start front = .ok (body ++ [final]))
    (behind : Text) : scan 0 .start (front ++ gap ++ behind) =
      (scan 0 (Position.start.afterAll (front ++ gap)) behind).map (body ++ ·) := by
  obtain ⟨c, gap, rfl⟩ := List.exists_cons_of_ne_nil spaced
  have cut := scan_before_gap (blank c List.mem_cons_self) (gap ++ behind) (Nat.zero_le _) scanned
  rw [List.append_assoc, List.cons_append, cut, ← List.cons_append, scan_gap blank,
    Position.after_all_append]

-- The tokens in front of a cut are those of a text that ends there, and those behind it
-- are those of the rest.
def Parted (passed front behind : Text) (tokens : List Token) : Prop :=
  ∃ early late, tokens = early ++ late ∧
    Layout passed front (early ++ [⟨.endOfInput, [], .afterAll .start (passed ++ front)⟩]) ∧
      Layout (passed ++ front) behind late

namespace Parted

variable {passed front behind gap word rest : Text} {kind : TokenKind} {tokens : List Token}

theorem in_gap (blank : ∀ c ∈ front ++ gap, isGap c = true)
    (read : lexeme? (word ++ rest) = some (kind, word))
    (others : Layout (passed ++ (front ++ gap ++ word)) rest tokens) :
    Parted passed front (gap ++ (word ++ rest))
      (⟨kind, word, .afterAll .start (passed ++ (front ++ gap))⟩ :: tokens) := by
  obtain ⟨blankFront, blankBehind⟩ := List.forall_mem_append.1 blank
  have late : Layout (passed ++ front ++ (gap ++ word)) rest tokens := by
    simpa only [List.append_assoc] using others
  refine ⟨[], _, rfl, .ending blankFront, ?_⟩
  rw [← List.append_assoc passed]
  exact .token blankBehind read late

theorem token (blank : ∀ c ∈ gap, isGap c = true)
    (read : lexeme? (word ++ (front ++ behind)) = some (kind, word))
    (others : Parted (passed ++ (gap ++ word)) front behind tokens) :
    Parted passed (gap ++ (word ++ front)) behind
      (⟨kind, word, .afterAll .start (passed ++ gap)⟩ :: tokens) := by
  obtain ⟨early, late, rfl, before, after⟩ := others
  have moved : passed ++ (gap ++ word) ++ front = passed ++ (gap ++ (word ++ front)) := by simp
  rw [moved] at before after
  exact ⟨_ :: early, late, rfl, .token blank (lexeme_again (.cut word front behind) read) before,
    after⟩

end Parted

def CutsNone (front : Text) (tokens : List Token) : Prop :=
  ∀ token ∈ tokens, token.stop ≤ front.byteLength ∨ front.byteLength ≤ token.start

instance (front : Text) (tokens : List Token) : Decidable (CutsNone front tokens) :=
  inferInstanceAs (Decidable (∀ token ∈ tokens,
    token.stop ≤ front.byteLength ∨ front.byteLength ≤ token.start))

theorem Layout.parted {passed text front behind : Text} {tokens : List Token}
    (layout : Layout passed text tokens) (split : text = front ++ behind)
    (whole : CutsNone (passed ++ front) tokens) : Parted passed front behind tokens := by
  induction layout generalizing front with
  | @ending passed gap blank =>
      subst split
      obtain ⟨blankFront, blankBehind⟩ := List.forall_mem_append.1 blank
      refine ⟨[], _, rfl, .ending blankFront, ?_⟩
      rw [← List.append_assoc]
      exact .ending blankBehind
  | @token passed gap word rest kind tokens blank read others ih =>
      obtain ⟨here, later⟩ := List.forall_mem_cons.1 whole
      rw [Token.stop_behind, Token.start_behind] at here
      simp only [Text.byte_length_append] at here
      obtain ends | starts := here
      · have short : (gap ++ word).byteLength ≤ front.byteLength := by
          rw [Text.byte_length_append]
          omega
        obtain ⟨inner, rfl, rfl⟩ := Text.shorter_front (by simpa using split) short
        have moved : passed ++ (gap ++ word ++ inner) = passed ++ (gap ++ word) ++ inner := by simp
        rw [moved] at later
        rw [List.append_assoc]
        exact (ih rfl later).token blank read
      · obtain ⟨inner, rfl, rfl⟩ := Text.shorter_front split.symm (by omega)
        exact .in_gap blank read others

def Token.word (token : Token) : TokenKind × Text := (token.kind, token.text)

theorem behind_words (front : Text) (tokens : List Token) :
    (tokens.map (Token.behind front)).map Token.word = tokens.map Token.word := by
  rw [List.map_map]
  rfl

-- Between two tokens of a text, or before or behind all of them, another gap has come in
-- the place of the one that was there, if one was.
inductive Respaced : Text → Text → Prop where
  | gap {front old new behind : Text} {tokens : List Token}
      (tokenized : tokenize (front ++ old ++ behind) = .ok tokens)
      (whole : CutsNone front tokens) (blank : ∀ c ∈ old, isGap c = true)
      (blankToo : ∀ c ∈ new, isGap c = true) (wide : new ≠ []) :
      Respaced (front ++ old ++ behind) (front ++ new ++ behind)

theorem Respaced.words {text other : Text} (respaced : Respaced text other) :
    ∃ tokens others, tokenize text = .ok tokens ∧ tokenize other = .ok others ∧
      others.map Token.word = tokens.map Token.word := by
  cases respaced with
  | @gap front old new behind tokens tokenized whole blank blankToo wide =>
      have layout := tokenize_layout tokenized
      obtain ⟨early, late, rfl, before, after⟩ := layout.parted (List.append_assoc _ _ _) whole
      have read := after.scanned
      rw [scan_gap blank, ← Position.after_all_append, List.nil_append, scan_start_behind] at read
      cases scanned : scan 0 .start behind with
      | error place =>
          rw [scanned] at read
          cases read
      | ok later =>
          rw [scanned] at read
          cases read
          have parts := scan_spaced wide blankToo before.scanned behind
          rw [scan_start_behind, scanned] at parts
          refine ⟨_, _, tokenized, tokenize_eq_ok.2 parts, ?_⟩
          rw [List.map_append, List.map_append, behind_words, behind_words]

theorem tokenize_respaced {text other : Text} {tokens : List Token}
    (tokenized : tokenize text = .ok tokens) (respaced : Relation.ReflTransGen Respaced text other) :
    ∃ others, tokenize other = .ok others ∧ others.map Token.word = tokens.map Token.word := by
  induction respaced with
  | refl => exact ⟨tokens, tokenized, rfl⟩
  | tail _ step ih =>
      obtain ⟨middle, tokenizedMiddle, sameMiddle⟩ := ih
      obtain ⟨before, after, tokenizedBefore, tokenizedAfter, same⟩ := step.words
      cases tokenizedMiddle.symm.trans tokenizedBefore
      exact ⟨after, tokenizedAfter, same.trans sameMiddle⟩

/-- Behind a gap a text is tokenized as it is on its own, or fails where it fails on its own, and
the tokens in front of the gap are those of the text there. The places of what is behind the gap
are counted on from it. How a text is spaced makes no difference to its tokens. -/
theorem tokenize_spaced {front gap : Text} {tokens : List Token} (wide : gap ≠ [])
    (blank : ∀ c ∈ gap, isGap c = true) (tokenized : tokenize front = .ok tokens) :
    ∃ body, tokens = body ++ [Token.ending front] ∧
      (∀ behind later, tokenize behind = .ok later →
        tokenize (front ++ gap ++ behind) =
          .ok (body ++ later.map (Token.behind (front ++ gap)))) ∧
      (∀ behind error, tokenize behind = .error error → ∃ line,
        tokenize (front ++ gap ++ behind) =
          .error ⟨error.position.behind (front ++ gap), line⟩) ∧
      ∀ other, Relation.ReflTransGen Respaced front other → ∃ others,
        tokenize other = .ok others ∧ others.map Token.word = tokens.map Token.word := by
  obtain ⟨body, rfl, -⟩ := (tokenize_layout tokenized).ended
  have parts := scan_spaced wide blank (tokenize_eq_ok.1 tokenized)
  refine ⟨body, rfl, ?_, ?_, fun other respaced => tokenize_respaced tokenized respaced⟩
  · intro behind later tokenizedBehind
    apply tokenize_eq_ok.2
    rw [parts, scan_start_behind, tokenize_eq_ok.1 tokenizedBehind]
    rfl
  · intro behind error stopped
    obtain ⟨place, scanned, rfl⟩ := tokenize_eq_error.1 stopped
    refine ⟨_, tokenize_eq_error.2 ⟨_, ?_, rfl⟩⟩
    rw [parts, scan_start_behind, scanned]
    rfl

theorem tokenize_spaced_lines :
    let front := "Ü</a b/".toList
    let gap := [' ', '\n']
    ∃ (body later : List Token) (error : LexicalError),
      gap ≠ [] ∧ (∀ c ∈ gap, isGap c = true) ∧
      tokenize front = .ok (body ++ [Token.ending front]) ∧
      tokenize "=x\n;".toList = .ok later ∧
      tokenize (front ++ gap ++ "=x\n;".toList) =
        .ok (body ++ later.map (Token.behind (front ++ gap))) ∧
      (later.map (Token.behind (front ++ gap))).map Token.position =
        [⟨10, 2, 1⟩, ⟨11, 2, 2⟩, ⟨13, 3, 1⟩, ⟨14, 3, 2⟩] ∧
      tokenize "(é %".toList = .error error ∧ error.position = ⟨4, 1, 4⟩ ∧
      (∃ line, tokenize (front ++ gap ++ "(é %".toList) = .error ⟨⟨14, 2, 4⟩, line⟩) ∧
      ∃ others, tokenize "Ü\t</a b/".toList = .ok others ∧
        others.map Token.word = (body ++ [Token.ending front]).map Token.word := by
  intro front gap
  let body : List Token := [⟨.identifier, ['Ü'], ⟨0, 1, 1⟩⟩, ⟨.operator, ['<'], ⟨2, 1, 2⟩⟩,
    ⟨.regex, "/a b/".toList, ⟨3, 1, 3⟩⟩]
  let later : List Token := [⟨.equals, ['='], ⟨0, 1, 1⟩⟩, ⟨.identifier, ['x'], ⟨1, 1, 2⟩⟩,
    ⟨.semicolon, [';'], ⟨3, 2, 1⟩⟩, ⟨.endOfInput, [], ⟨4, 2, 2⟩⟩]
  have tokenized : tokenize front = .ok (body ++ [Token.ending front]) := by decide +kernel
  have tokenizedLater : tokenize "=x\n;".toList = .ok later := by decide +kernel
  have stopped : tokenize "(é %".toList = .error ⟨⟨4, 1, 4⟩, "(é %".toList⟩ := by decide +kernel
  have blank : ∀ c ∈ gap, isGap c = true := List.all_eq_true.1 (by decide)
  have respaced : Respaced (['Ü'] ++ [] ++ "</a b/".toList) (['Ü'] ++ ['\t'] ++ "</a b/".toList) := by
    apply Respaced.gap tokenized
    · decide +kernel
    · exact List.forall_mem_nil _
    · exact List.forall_mem_singleton.2 rfl
    · exact List.cons_ne_nil _ _
  obtain ⟨inner, same, reads, fails, respaces⟩ := tokenize_spaced (by decide) blank tokenized
  obtain ⟨rfl, -⟩ := List.append_inj' same rfl
  refine ⟨body, later, _, by decide, blank, tokenized, tokenizedLater, reads _ _ tokenizedLater,
    by decide +kernel, stopped, rfl, fails _ _ stopped, ?_⟩
  exact respaces _ (Relation.ReflTransGen.single respaced)

end TreeQuery

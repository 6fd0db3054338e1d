import TreeQuery.Proofs.Text.Slice
import TreeQuery.Proofs.Token.Scan

/- Where the tokens of a text stand. The walk cuts a text into gaps and lexemes by turns,
   and from that cut offsets, lines and columns are read off: nothing of the text is lost,
   nothing is read twice, and every place is the one that the characters in front of it
   lead to. -/
set_option autoImplicit false

namespace TreeQuery

namespace Token

def start (token : Token) : Nat := token.position.offset

def stop (token : Token) : Nat := token.start + token.text.byteLength

def ending (text : Text) : Token :=
  ⟨.endOfInput, [], ⟨text.byteLength, text.count '\n' + 1,
    ((text.pieces '\n').getLastD []).length + 1⟩⟩

theorem ending_eq (text : Text) :
    ending text = ⟨.endOfInput, [], Position.start.afterAll text⟩ := by
  rw [ending, Text.last_piece, Position.start_after_all, Nat.add_comm 1, Nat.add_comm 1]

theorem start_behind (kind : TokenKind) (word before : Text) :
    start ⟨kind, word, .afterAll .start before⟩ = before.byteLength := by
  rw [start, Position.start_after_all]

theorem stop_behind (kind : TokenKind) (word before : Text) :
    stop ⟨kind, word, .afterAll .start before⟩ = (before ++ word).byteLength := by
  rw [stop, start_behind, Text.byte_length_append]

end Token

-- The text behind some front of it, with the tokens that it is cut into.
inductive Layout : Text → Text → List Token → Prop where
  | ending {front gap : Text} (blank : ∀ c ∈ gap, isGap c = true) :
      Layout front gap [⟨.endOfInput, [], .afterAll .start (front ++ gap)⟩]
  | token {front gap word rest : Text} {kind : TokenKind} {tokens : List Token}
      (blank : ∀ c ∈ gap, isGap c = true) (read : lexeme? (word ++ rest) = some (kind, word))
      (others : Layout (front ++ (gap ++ word)) rest tokens) :
      Layout front (gap ++ (word ++ rest)) (⟨kind, word, .afterAll .start (front ++ gap)⟩ :: tokens)

theorem Layout.gap {front rest : Text} {c : Char} {tokens : List Token}
    (blank : isGap c = true) (layout : Layout (front ++ [c]) rest tokens) :
    Layout front (c :: rest) tokens := by
  cases layout with
  | ending others =>
      rw [List.append_assoc]
      exact .ending (List.forall_mem_cons.2 ⟨blank, others⟩)
  | token others read behind =>
      rw [List.append_assoc] at behind ⊢
      exact .token (List.forall_mem_cons.2 ⟨blank, others⟩) read behind

theorem Position.after_reached {here : Position} {front : Text}
    (reached : here = .afterAll .start front) (c : Char) :
    here.after c = .afterAll .start (front ++ [c]) := by
  rw [reached, after_all_append]
  rfl

-- What is still pending belongs to the token in front.
theorem scan_layout {pending : Nat} {here : Position} {front text : Text} {tokens : List Token}
    (reached : here = .afterAll .start front) (enough : pending ≤ text.length)
    (scanned : scan pending here text = .ok tokens) :
    Layout (front ++ text.take pending) (text.drop pending) tokens := by
  fun_induction scan pending here text generalizing front tokens with
  | case1 pending here =>
      cases scanned
      rw [List.take_nil, List.drop_nil, reached]
      simpa using Layout.ending (List.forall_mem_nil _)
  | case2 pending here c rest ih =>
      have layout := ih (here.after_reached reached c) (Nat.le_of_succ_le_succ enough) scanned
      simpa using layout
  | case3 here c rest blank ih =>
      have layout := ih (here.after_reached reached c) (Nat.zero_le _) scanned
      rw [List.take_zero, List.append_nil, List.drop_zero] at layout ⊢
      exact layout.gap blank
  | case4 => cases scanned
  | case5 => cases scanned
  | case6 here c rest noGap kind lexeme read others scannedRest ih =>
      cases scanned
      have readBy := lexeme_read_by read
      obtain ⟨back, split⟩ := readBy.lexeme_prefix
      cases lexeme with
      | nil => exact absurd rfl readBy.nonempty
      | cons first word =>
          obtain ⟨sameFirst, sameRest⟩ : first = c ∧ word ++ back = rest := List.cons.inj split
          subst sameFirst sameRest
          have inside : word.length ≤ (word ++ back).length := by simp
          have layout := ih (here.after_reached reached first) inside scannedRest
          simp only [List.length_cons, Nat.add_sub_cancel, List.take_left, List.drop_left,
            List.append_assoc, List.singleton_append] at layout
          rw [List.take_zero, List.append_nil, List.drop_zero, reached]
          simpa using Layout.token (List.forall_mem_nil _) read layout

theorem tokenize_layout {text : Text} {tokens : List Token} (tokenized : tokenize text = .ok tokens) :
    Layout [] text tokens := by
  have layout : Layout ([] ++ text.take 0) (text.drop 0) tokens :=
    scan_layout rfl (Nat.zero_le _) (tokenize_eq_ok.1 tokenized)
  exact layout

theorem Layout.scanned {passed text : Text} {tokens : List Token}
    (layout : Layout passed text tokens) :
    scan 0 (.afterAll .start passed) text = .ok tokens := by
  induction layout with
  | @ending front gap blank =>
      have passes := scan_gap blank (.afterAll .start front) []
      rw [List.append_nil] at passes
      rw [passes, Position.after_all_append]
      rfl
  | @token front gap word rest kind tokens blank read others ih =>
      cases word with
      | nil => exact absurd rfl (lexeme_read_by read).nonempty
      | cons c word =>
          rw [scan_gap blank, scan_lexeme _ read, ← Position.after_all_append,
            ← Position.after_all_append, List.append_assoc, ih]
          rfl

/-- The tokens of a text with the places where they stand. -/
structure Tokenization (text : Text) (tokens : List Token) : Prop where
  ended : ∃ body, tokens = body ++ [Token.ending text] ∧
    ∀ token ∈ body, token.kind ≠ .endOfInput ∧ token.text ≠ []
  -- No offset is inside a character.
  slices : ∀ token ∈ tokens, (text.upTo token.start).byteLength = token.start ∧
    text.slice token.start token.stop = token.text
  increasing : tokens.Pairwise fun token later => token.start < later.start
  disjoint : tokens.Pairwise fun token later => token.stop ≤ later.start
  -- The gaps are in front of the first token and between any two that follow each other.
  gaps : ∀ between ∈ (0 :: tokens.map Token.stop).zip (tokens.map Token.start),
    ∀ c ∈ text.slice between.1 between.2, isGap c = true
  lines : ∀ token ∈ tokens, token.position.line = 1 + (text.upTo token.start).count '\n'
  columns : ∀ token ∈ tokens,
    token.position.column = 1 + (text.upTo token.start).lastLine.length

def Token.PlacedIn (text : Text) (token : Token) : Prop :=
  ∃ before behind, text = before ++ (token.text ++ behind) ∧
    token.position = Position.start.afterAll before

namespace Token.PlacedIn

variable {text : Text} {token : Token}

theorem position_eq (placed : token.PlacedIn text) : token.position =
    ⟨(text.upTo token.start).byteLength, 1 + (text.upTo token.start).count '\n',
      1 + (text.upTo token.start).lastLine.length⟩ := by
  obtain ⟨before, behind, rfl, place⟩ := placed
  have front := Position.start_after_all before
  have offset : token.start = before.byteLength := by rw [start, place, front]
  rw [offset, Text.up_to_append, place, front]

theorem slice_eq (placed : token.PlacedIn text) :
    text.slice token.start token.stop = token.text := by
  obtain ⟨before, behind, rfl, place⟩ := placed
  have offset : token.start = before.byteLength := by
    rw [start, place, Position.start_after_all]
  rw [stop, offset, ← Text.byte_length_append, Text.slice_append]

end Token.PlacedIn

namespace Layout

variable {front rest : Text} {tokens : List Token}

theorem placed (layout : Layout front rest tokens) :
    ∀ token ∈ tokens, token.PlacedIn (front ++ rest) := by
  induction layout with
  | @ending front gap _ =>
      rw [List.forall_mem_singleton]
      exact ⟨front ++ gap, [], by simp, rfl⟩
  | @token front gap word rest _ _ _ _ _ ih =>
      rw [List.forall_mem_cons]
      constructor
      · exact ⟨front ++ gap, rest, by simp, rfl⟩
      · simpa using ih

theorem ended (layout : Layout front rest tokens) :
    ∃ body, tokens = body ++ [Token.ending (front ++ rest)] ∧
      ∀ token ∈ body, token.kind ≠ .endOfInput ∧ token.text ≠ [] := by
  induction layout with
  | @ending front gap _ =>
      rw [Token.ending_eq]
      exact ⟨[], rfl, List.forall_mem_nil _⟩
  | @token front gap word rest kind _ _ read _ ih =>
      obtain ⟨body, rfl, inner⟩ := ih
      have readBy := lexeme_read_by read
      refine ⟨⟨kind, word, .afterAll .start (front ++ gap)⟩ :: body, by simp, ?_⟩
      exact List.forall_mem_cons.2 ⟨⟨readBy.kind_ne_end, readBy.nonempty⟩, inner⟩

theorem front_le_start (layout : Layout front rest tokens) :
    ∀ token ∈ tokens, front.byteLength ≤ token.start := by
  induction layout with
  | @ending front gap _ =>
      rw [List.forall_mem_singleton, Token.start_behind, Text.byte_length_append]
      exact Nat.le_add_right _ _
  | @token front gap word rest kind _ _ read _ ih =>
      rw [List.forall_mem_cons]
      constructor
      · rw [Token.start_behind, Text.byte_length_append]
        exact Nat.le_add_right _ _
      · intro token inside
        have later := ih token inside
        rw [Text.byte_length_append] at later
        omega

theorem disjoint (layout : Layout front rest tokens) :
    tokens.Pairwise fun token later => token.stop ≤ later.start := by
  induction layout with
  | ending _ => exact List.pairwise_singleton _ _
  | @token front gap word rest kind _ _ read others ih =>
      apply List.Pairwise.cons _ ih
      intro later inside
      rw [Token.stop_behind, List.append_assoc]
      exact others.front_le_start later inside

theorem increasing (layout : Layout front rest tokens) :
    tokens.Pairwise fun token later => token.start < later.start := by
  induction layout with
  | ending _ => exact List.pairwise_singleton _ _
  | @token front gap word rest kind _ _ read others ih =>
      apply List.Pairwise.cons _ ih
      intro later inside
      have behind := others.front_le_start later inside
      have wide := Text.byte_length_pos (lexeme_read_by read).nonempty
      rw [Token.start_behind]
      simp only [Text.byte_length_append] at behind ⊢
      omega

theorem gaps (layout : Layout front rest tokens) :
    ∀ between ∈ (front.byteLength :: tokens.map Token.stop).zip (tokens.map Token.start),
      ∀ c ∈ (front ++ rest).slice between.1 between.2, isGap c = true := by
  induction layout with
  | @ending front gap blank =>
      have cut := Text.slice_append front gap []
      rw [List.append_nil] at cut
      simp only [List.map_cons, List.map_nil, List.zip_cons_cons, List.zip_nil_right,
        List.forall_mem_singleton, Token.start_behind, cut]
      exact blank
  | @token front gap word rest kind tokens blank read others ih =>
      have cut := Text.slice_append front gap (word ++ rest)
      rw [List.append_assoc, List.append_assoc] at ih
      rw [List.map_cons, List.map_cons, List.zip_cons_cons, List.forall_mem_cons,
        Token.start_behind, Token.stop_behind, List.append_assoc, cut]
      exact ⟨blank, ih⟩

end Layout

/-- The tokens of a text lose nothing of it: they stand apart and in order, each is the text
between its two ends, blanks and line ends alone lie between them, and their places are counted
from the start of the text. -/
theorem tokenize_lossless {text : Text} {tokens : List Token}
    (tokenized : tokenize text = .ok tokens) : Tokenization text tokens := by
  have layout := tokenize_layout tokenized
  have placed := layout.placed
  constructor
  · exact layout.ended
  · intro token inside
    exact ⟨(congrArg Position.offset (placed token inside).position_eq).symm,
      (placed token inside).slice_eq⟩
  · exact layout.increasing
  · exact layout.disjoint
  · exact layout.gaps
  · intro token inside
    exact congrArg Position.line (placed token inside).position_eq
  · intro token inside
    exact congrArg Position.column (placed token inside).position_eq

theorem tokenize_lossless_lines :
    ∃ tokens, tokenize "é|Ü\t< /a b→/\r\n!$,, 𝒳\n ; ".toList = .ok tokens ∧
      tokens.map (fun token => (token.start, token.stop)) =
        [(0, 5), (6, 7), (8, 16), (18, 19), (19, 22), (23, 27), (29, 30), (31, 31)] ∧
      Tokenization "é|Ü\t< /a b→/\r\n!$,, 𝒳\n ; ".toList tokens := by
  have accepted : (tokenize "é|Ü\t< /a b→/\r\n!$,, 𝒳\n ; ".toList).toOption.map
      (·.map fun token => (token.start, token.stop)) =
        some [(0, 5), (6, 7), (8, 16), (18, 19), (19, 22), (23, 27), (29, 30), (31, 31)] := by
    decide +kernel
  cases tokenized : tokenize "é|Ü\t< /a b→/\r\n!$,, 𝒳\n ; ".toList with
  | error error =>
      rw [tokenized] at accepted
      cases accepted
  | ok tokens =>
      rw [tokenized] at accepted
      exact ⟨tokens, rfl, Option.some.inj accepted, tokenize_lossless tokenized⟩

end TreeQuery

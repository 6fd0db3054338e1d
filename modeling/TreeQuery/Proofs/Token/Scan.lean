import TreeQuery.Proofs.Token.Lexeme

/- Walks over a text: every token is what the rules read where it stands, and a
   lexeme gives its token whatever the walk comes to behind it. -/
set_option autoImplicit false

namespace TreeQuery

def Token.Lexed (token : Token) : Prop :=
  ∃ text, lexeme? text = some (token.kind, token.text)

theorem Token.Lexed.kind_ne_end {token : Token} (lexed : token.Lexed) :
    token.kind ≠ .endOfInput := by
  obtain ⟨text, read⟩ := lexed
  exact (lexeme_read_by read).kind_ne_end

theorem scan_lexed {pending : Nat} {here : Position} {text : Text} {tokens : List Token}
    (scanned : scan pending here text = .ok tokens) :
    ∃ body final, tokens = body ++ [final] ∧ final.kind = .endOfInput ∧
      ∀ token ∈ body, token.Lexed := by
  fun_induction scan pending here text generalizing tokens with
  | case1 pending here =>
      cases scanned
      exact ⟨[], _, rfl, rfl, by simp⟩
  | case2 pending here c rest ih => exact ih scanned
  | case3 here c rest gap ih => exact ih scanned
  | case4 => cases scanned
  | case5 => cases scanned
  | case6 here c rest noGap kind lexeme read others scannedRest ih =>
      cases scanned
      obtain ⟨body, final, rfl, ended, lexed⟩ := ih scannedRest
      refine ⟨⟨kind, lexeme, here⟩ :: body, final, rfl, ended, ?_⟩
      exact List.forall_mem_cons.2 ⟨⟨c :: rest, read⟩, lexed⟩

theorem tokenize_eq_ok {text : Text} {tokens : List Token} :
    tokenize text = .ok tokens ↔ scan 0 .start text = .ok tokens := by
  unfold tokenize
  cases scan 0 .start text <;> simp

theorem tokenize_eq_error {text : Text} {error : LexicalError} : tokenize text = .error error ↔
    ∃ place, scan 0 .start text = .error place ∧ ⟨place, quotedLine text place.line⟩ = error := by
  unfold tokenize
  cases scan 0 .start text <;> simp

theorem tokenize_lexed {text : Text} {tokens : List Token} (tokenized : tokenize text = .ok tokens) :
    ∃ body final, tokens = body ++ [final] ∧ final.kind = .endOfInput ∧
      ∀ token ∈ body, token.Lexed := scan_lexed (tokenize_eq_ok.1 tokenized)

theorem scan_passing (word : Text) (here : Position) (rest : Text) :
    scan word.length here (word ++ rest) = scan 0 (here.afterAll word) rest := by
  induction word generalizing here with
  | nil => rfl
  | cons c word ih => exact ih (here.after c)

theorem lexeme_gap {c : Char} (rest : Text) (gap : isGap c = true) : lexeme? (c :: rest) = none := by
  obtain rfl | rfl | rfl | rfl := gap_cases gap <;> rfl

theorem scan_gap {gap : Text} (blank : ∀ c ∈ gap, isGap c = true) (here : Position) (text : Text) :
    scan 0 here (gap ++ text) = scan 0 (here.afterAll gap) text := by
  induction gap generalizing here with
  | nil => rfl
  | cons c gap ih =>
      obtain ⟨blankHere, later⟩ := List.forall_mem_cons.1 blank
      rw [List.cons_append, scan, if_pos blankHere]
      exact ih later (here.after c)

theorem scan_lexeme {kind : TokenKind} {c : Char} {word rest : Text} (here : Position)
    (read : lexeme? (c :: word ++ rest) = some (kind, c :: word)) :
    scan 0 here (c :: word ++ rest) =
      (scan 0 (here.afterAll (c :: word)) rest).map (⟨kind, c :: word, here⟩ :: ·) := by
  have noGap : ¬ isGap c = true := by
    intro gap
    rw [List.cons_append, lexeme_gap _ gap] at read
    cases read
  rw [List.cons_append] at read ⊢
  rw [scan, if_neg noGap, read]
  simp only [List.length_cons, Nat.add_sub_cancel, scan_passing, Position.after_all_cons]
  cases scan 0 ((here.after c).afterAll word) rest <;> rfl

end TreeQuery

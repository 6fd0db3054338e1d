import TreeQuery.Proofs.Grammar.Stretch

/- The stretch of an accepted pattern that a token stands in. The operators in front of the
   token count out which description is written there. -/
set_option autoImplicit false

namespace TreeQuery

variable {tokens before rest : List Token} {mark : Token}

theorem split_behind {p : Token → Bool} {free : List Token} (apart : ∀ token ∈ free, p token = false)
    (found : p mark = true) (split : free ++ tokens = before ++ mark :: rest) :
    ∃ between, before = free ++ between ∧ tokens = between ++ mark :: rest := by
  rcases List.append_eq_append_iff.1 split with ⟨between, same, behind⟩ | ⟨inner, same, behind⟩
  · exact ⟨between, same, behind⟩
  · cases inner with
    | nil => exact ⟨[], by simpa using same.symm, behind.symm⟩
    | cons first inner =>
        obtain ⟨rfl, -⟩ := List.cons.inj behind
        have plain := apart mark (by simp [same])
        exact absurd (plain.symm.trans found) Bool.false_ne_true

theorem split_ahead {p : Token → Bool} {free : List Token} (apart : ∀ token ∈ free, p token = false)
    (found : p mark = true) (split : tokens ++ free = before ++ mark :: rest) :
    ∃ inner, rest = inner ++ free ∧ tokens = before ++ mark :: inner := by
  have noMark : mark ∉ free := by
    intro inside
    exact absurd ((apart mark inside).symm.trans found) Bool.false_ne_true
  rcases List.append_eq_append_iff.1 split with ⟨between, -, behind⟩ | ⟨inner, same, behind⟩
  · rw [behind] at noMark
    exact absurd (List.mem_append_right _ List.mem_cons_self) noMark
  · cases inner with
    | nil =>
        rw [List.nil_append] at behind
        exact absurd (behind ▸ List.mem_cons_self) noMark
    | cons first inner =>
        obtain ⟨rfl, rfl⟩ := List.cons.inj behind
        exact ⟨inner, rfl, same⟩

theorem split_before_end {body : List Token} {final : Token} (ended : final.kind = .endOfInput)
    (other : mark.kind ≠ .endOfInput) (split : body ++ [final] = before ++ mark :: rest) :
    ∃ inner, rest = inner ++ [final] ∧ body = before ++ mark :: inner := by
  have apart : ∀ token ∈ [final], (token.kind != .endOfInput) = false := by simp [ended]
  exact split_ahead apart (by simpa using other) split

theorem count_operators_free {free : List Token} (apart : OperatorFree free) :
    free.countP Token.isOperator = 0 :=
  List.countP_eq_zero.2 fun token inside => by simp [apart token inside]

theorem Stretch.count_operators {piece : List Token} (stretch : Stretch piece) :
    piece.countP Token.isOperator = 1 := by
  obtain ⟨operator, free, rfl, leads, apart⟩ := stretch
  rw [List.countP_cons_of_pos leads, count_operators_free apart]

theorem Stretch.split_operator {piece : List Token} (stretch : Stretch piece)
    (leads : mark.isOperator = true) (split : piece = before ++ mark :: rest) : before = [] := by
  obtain ⟨operator, free, rfl, -, apart⟩ := stretch
  cases before with
  | nil => rfl
  | cons first before =>
      obtain ⟨-, rfl⟩ := List.cons.inj split
      have plain := apart mark (by simp)
      exact absurd (plain.symm.trans leads) Bool.false_ne_true

-- The stretch that a token stands in, among several that belong to the items of a list.
theorem split_stretches {α : Type} {related : List Token → α → Prop} {pieces : List (List Token)}
    {items : List α} (led : ∀ piece item, related piece item → Stretch piece)
    (each : List.Forall₂ related pieces items) (split : pieces.flatten = before ++ mark :: rest) :
    ∃ earlier inner outer later item, before = earlier ++ inner ∧ rest = outer ++ later ∧
      related (inner ++ mark :: outer) item ∧
        items[earlier.countP Token.isOperator]? = some item := by
  induction each generalizing before with
  | nil => simp at split
  | @cons piece item pieces items holds others ih =>
      have behind : ∀ between, before = piece ++ between → pieces.flatten = between ++ mark :: rest →
          ∃ earlier inner outer later found, before = earlier ++ inner ∧ rest = outer ++ later ∧
            related (inner ++ mark :: outer) found ∧
              (item :: items)[earlier.countP Token.isOperator]? = some found := by
        rintro between rfl further
        obtain ⟨earlier, inner, outer, later, found, rfl, same, holdsThere, there⟩ := ih further
        refine ⟨piece ++ earlier, inner, outer, later, found, by simp, same, holdsThere, ?_⟩
        rw [List.countP_append, (led _ _ holds).count_operators, Nat.add_comm]
        exact there
      rcases List.append_eq_append_iff.1 split with ⟨between, same, further⟩ | ⟨inner, same, further⟩
      · exact behind between same further
      · cases inner with
        | nil => exact behind [] (by simpa using same.symm) further.symm
        | cons first inner =>
            obtain ⟨rfl, rfl⟩ := List.cons.inj further
            exact ⟨[], before, inner, pieces.flatten, item, rfl, rfl, same ▸ holds, rfl⟩

theorem stretch_of_item {α : Type} {related : List Token → α → Prop} {pieces : List (List Token)}
    {items : List α} {index : Nat} {item : α}
    (led : ∀ piece item, related piece item → Stretch piece)
    (each : List.Forall₂ related pieces items) (listed : items[index]? = some item) :
    ∃ earlier piece later, pieces.flatten = earlier ++ (piece ++ later) ∧
      earlier.countP Token.isOperator = index ∧ related piece item := by
  induction each generalizing index with
  | nil => cases listed
  | @cons piece first pieces items holds others ih =>
      cases index with
      | zero =>
          cases listed
          exact ⟨[], piece, pieces.flatten, rfl, rfl, holds⟩
      | succ index =>
          obtain ⟨earlier, found, later, split, counted, holdsThere⟩ := ih listed
          refine ⟨piece ++ earlier, found, later, by simp [split], ?_, holdsThere⟩
          rw [List.countP_append, (led _ _ holds).count_operators, counted, Nat.add_comm]

namespace Grammar

variable {resolver : Resolver} {parsed : Parsed}

theorem parse_tokens_pieces (accepted : parseTokens resolver tokens = .ok parsed) :
    ∃ (first : List Token) (pieces : List (List Token)) (top : Description)
      (later : List Description),
      (TokenStream.ofTokens tokens).upcoming = first ++ pieces.flatten ∧
        parsed.root.descriptions = top :: later ∧
          Writes resolver.checkRegex Relation.root first top ∧
            List.Forall₂ (WritesRelated resolver) pieces later := by
  obtain ⟨phrase, names, spelt, -, found, -⟩ := parse_tokens_outcome accepted
  have denoted : phrase.top.denote resolver Relation.root = some parsed.top :=
    (outcome_of_eq_some.1 found).1
  have heads := (phrase.top.heads denoted).append
    (.joint (by rw [phrase.terminator.kind_eq]; decide) .nil)
  obtain ⟨first, pieces, split, writes, each⟩ := heads.stretches
  rw [List.append_nil] at each
  exact ⟨first, pieces, parsed.top.description, lowerDescriptions parsed.top,
    spelt.symm.trans split, rfl, writes, each⟩

-- An operator is read with its argument and gives the relation of a description. What stands
-- behind it opens a node.
theorem parse_tokens_operator (accepted : parseTokens resolver tokens = .ok parsed)
    (leads : mark.isOperator = true)
    (split : (TokenStream.ofTokens tokens).upcoming = before ++ mark :: rest) :
    ∃ (operation : OperationPhrase) (behind : List Token) (description : Description),
      mark :: rest = operation.tokens ++ behind ∧
        (∀ last, nextKind behind last ∈ nodeStart) ∧
          operation.denote resolver = some description.relation ∧
            parsed.root.descriptions[before.countP Token.isOperator + 1]? = some description := by
  obtain ⟨first, pieces, top, later, whole, listed, writes, each⟩ := parse_tokens_pieces accepted
  have free := writes.operator_free
  obtain ⟨between, rfl, further⟩ := split_behind free leads (whole.symm.trans split)
  obtain ⟨earlier, inner, outer, others, description, rfl, rfl, holds, there⟩ :=
    split_stretches (fun _ _ => WritesRelated.stretch) each further
  obtain rfl : inner = [] := holds.stretch.split_operator leads rfl
  obtain ⟨operation, relation, written, spelt, resolved, same, openers, label, joints, rfl,
    parens, -, -⟩ := holds
  refine ⟨operation, openers ++ (label.tokens ++ joints) ++ others, description, ?_, ?_,
    by rw [same, resolved], ?_⟩
  · rw [← List.append_assoc, ← spelt]
    simp
  · intro last
    cases openers with
    | nil =>
        have opens : Opens label.tokens [nextKind (joints ++ others) last] nodeStart :=
          (description_opens label _).mono (List.Subset.refl _) (by decide)
        simpa using opens (joints ++ others) last List.mem_cons_self
    | cons opener openers =>
        have paren : opener.kind = .leftParen := parens opener List.mem_cons_self
        change opener.kind ∈ nodeStart
        rw [paren]
        decide
  · rw [listed, List.countP_append, List.countP_append, count_operators_free free]
    simpa using there

theorem parse_tokens_index {operator number : Token}
    (accepted : parseTokens resolver tokens = .ok parsed) (isOperator : operator.kind = .operator)
    (isNumber : number.kind = .number)
    (split : (TokenStream.ofTokens tokens).upcoming = before ++ operator :: number :: rest) :
    ∃ description,
      parsed.root.descriptions[before.countP Token.isOperator + 1]? = some description ∧
        resolver.resolve (indexed operator.text number.text).1
          (some (indexed operator.text number.text).2) = .ok description.relation := by
  have leads : operator.isOperator = true := by
    rw [Token.isOperator, isOperator]
    rfl
  obtain ⟨operation, behind, description, spelt, opens, denoted, there⟩ :=
    parse_tokens_operator accepted leads split
  have resolved := to_option_eq_some.1 denoted
  refine ⟨description, there, ?_⟩
  rcases operation with ⟨leaf, _ | index⟩ | ⟨leaf, argument⟩
  · -- The number would have to open the node behind the operator.
    simp only [OperationPhrase.tokens, optionalTokens, List.cons_append, List.nil_append,
      List.cons.injEq] at spelt
    have next := opens operator
    rw [← spelt.2, next_kind_cons, isNumber] at next
    exact absurd next (by decide)
  · simp only [OperationPhrase.tokens, optionalTokens, List.cons_append, List.nil_append,
      List.cons.injEq] at spelt
    obtain ⟨rfl, rfl, -⟩ := spelt
    exact resolved
  · rw [(List.cons.inj spelt).1, leaf.kind_eq] at isOperator
    cases isOperator

theorem parse_tokens_described {index : Nat} {description : Description}
    (accepted : parseTokens resolver tokens = .ok parsed)
    (listed : parsed.root.descriptions[index]? = some description) :
    description.relation = Relation.root ∨
      ∃ (front : List Token) (operation : OperationPhrase) (behind : List Token),
        (TokenStream.ofTokens tokens).upcoming = front ++ (operation.tokens ++ behind) ∧
          index = front.countP Token.isOperator + 1 ∧
            operation.denote resolver = some description.relation := by
  obtain ⟨first, pieces, top, later, whole, parts, writes, each⟩ := parse_tokens_pieces accepted
  rw [parts] at listed
  cases index with
  | zero =>
      cases listed
      exact .inl writes.1
  | succ index =>
      obtain ⟨earlier, piece, others, split, counted, holds⟩ :=
        stretch_of_item (fun _ _ => WritesRelated.stretch) each listed
      obtain ⟨operation, relation, written, rfl, resolved, same, -⟩ := holds
      refine .inr ⟨first ++ earlier, operation, written ++ others, ?_, ?_, by rw [same, resolved]⟩
      · rw [whole, split]
        simp
      · rw [List.countP_append, count_operators_free writes.operator_free, counted, Nat.zero_add]

end Grammar

end TreeQuery

import TreeQuery.Proofs.Grammar.Heeds.Level

/- A number at the place where it is read: it fits and the run goes on, or it is refused and the
   run stops there. -/
set_option autoImplicit false

namespace TreeQuery

def PatternError.Behind (after : List Token) (error : PatternError) : Prop :=
  error.Unrelated ∨ ∃ token ∈ after, token.position = error.position

namespace Grammar

variable {resolver : Resolver} {error : PatternError} {front tail read before after : List Token}
  {number : Token}

inductive Refused (resolver : Resolver) : PatternError → List Token → Token → List Token → Prop where
  | index {front : List Token} {operator number : Token} {cause : RelationError}
      (isOperator : operator.kind = .operator)
      (refused : resolver.resolve (indexed operator.text number.text).1
        (some (indexed operator.text number.text).2) = .error cause) :
      Refused resolver (.invalidRelation cause operator.position) (front ++ [operator]) number []
  | group {front after : List Token} {hash number label : Token} {descriptor : Descriptor}
      {fault : GroupFault} (isHash : hash.kind = .hash) (inFront : labelInFront front = some label)
      (meant : descriptorOf resolver.checkRegex label = .ok descriptor)
      (refused : groupNumber descriptor number.text = .error fault) :
      Refused resolver (.invalidGroupCapture number.text fault number.position) (front ++ [hash])
        number after
  | unfinished {error : PatternError} {front after : List Token} {hash number : Token}
      (isHash : hash.kind = .hash) (short : after.length < 2) :
      Refused resolver error (front ++ [hash]) number after

theorem Sound.number_cases (sound : Sound resolver front) (isNumber : number.kind = .number)
    (split : front ++ tail = before ++ number :: after) :
    (Fits resolver before number ∧ ∃ inner, after = inner ++ tail) ∨
      ∃ between, before = front ++ between ∧ tail = between ++ number :: after := by
  rcases List.append_eq_append_iff.1 split with ⟨between, same, behind⟩ | ⟨inner, same, behind⟩
  · exact .inr ⟨between, same, behind⟩
  · cases inner with
    | nil => exact .inr ⟨[], by simpa using same.symm, by simpa using behind.symm⟩
    | cons token inner =>
        obtain ⟨rfl, rfl⟩ := List.cons.inj behind
        exact .inl ⟨sound before number inner same isNumber, inner, rfl⟩

theorem only_number {first second : Token} (isNumber : number.kind = .number)
    (noNumber : first.kind ≠ .number) (free : ∀ token ∈ tail, token.kind ≠ .number)
    (split : first :: second :: tail = before ++ number :: after) :
    before = [first] ∧ number = second ∧ after = tail := by
  cases before with
  | nil =>
      obtain ⟨same, -⟩ := List.cons.inj split
      exact absurd (same ▸ isNumber) noNumber
  | cons head before =>
      simp only [List.cons_append, List.cons.injEq] at split
      obtain ⟨rfl, split⟩ := split
      cases before with
      | nil =>
          obtain ⟨same, rest⟩ := List.cons.inj split
          exact ⟨rfl, same.symm, rest.symm⟩
      | cons head before =>
          simp only [List.cons_append, List.cons.injEq] at split
          exact absurd isNumber (free number (by simp [split.2]))

theorem OperationPhrase.position_mem (operation : OperationPhrase) :
    ∃ token ∈ operation.tokens, token.position = operation.operation.position := by
  rcases operation with ⟨operator, _ | number⟩ | ⟨operator, argument⟩
  all_goals exact ⟨operator.token, List.mem_cons_self, rfl⟩

theorem OperationPhrase.split_number {operation : OperationPhrase} (isNumber : number.kind = .number)
    (split : operation.tokens = before ++ number :: after) :
    ∃ (operator : Leaf [.operator]) (index : Leaf [.number]),
      operation = .plain operator (some index) ∧ before = [operator.token] ∧
        number = index.token ∧ after = [] := by
  have inside : number ∈ operation.tokens := by simp [split]
  rcases operation with ⟨operator, _ | index⟩ | ⟨operator, argument⟩
  · have same := List.mem_singleton.1 inside
    rw [same, operator.kind_eq] at isNumber
    cases isNumber
  · have noNumber : operator.token.kind ≠ .number := by
      rw [operator.kind_eq]
      decide
    obtain ⟨rfl, rfl, rfl⟩ := only_number isNumber noNumber (List.forall_mem_nil _) split
    exact ⟨operator, index, rfl, rfl, rfl, rfl⟩
  · rcases List.mem_cons.1 inside with same | inside
    · rw [same, operator.kind_eq] at isNumber
      cases isNumber
    · exact absurd (isNumber ▸ argument.within number inside) (by decide)

-- A number fits, and if there is an error it is not about this number, or it is refused.
theorem Halted.at_number (halted : Halted resolver error read) (isNumber : number.kind = .number)
    (split : read = before ++ number :: after) :
    (Fits resolver before number ∧ error.Behind after) ∨ Refused resolver error before number after := by
  cases halted with
  | elsewhere sound unrelated =>
      exact .inl ⟨sound before number after split isNumber, .inl unrelated⟩
  | @unfinished _ front hash index equals sound unrelated =>
      rcases sound.number_cases isNumber split with ⟨fits, -⟩ | ⟨between, rfl, inside⟩
      · exact .inl ⟨fits, .inl unrelated⟩
      · have noNumber : hash.token.kind ≠ .number := by
          rw [hash.kind_eq]
          decide
        have free : ∀ token ∈ optionalTokens equals, token.kind ≠ .number := by
          cases equals <;> simp [optionalTokens, Leaf.kind_eq]
        obtain ⟨rfl, rfl, rfl⟩ := only_number isNumber noNumber free inside
        exact .inr (.unfinished hash.kind_eq (by cases equals <;> simp [optionalTokens]))
  | @relation front operation cause sound refused =>
      rcases sound.number_cases isNumber split with ⟨fits, inner, rfl⟩ | ⟨between, rfl, inside⟩
      · obtain ⟨token, among, place⟩ := operation.position_mem
        exact .inl ⟨fits, .inr ⟨token, List.mem_append_right _ among, place⟩⟩
      · obtain ⟨operator, index, rfl, rfl, rfl, rfl⟩ := OperationPhrase.split_number isNumber inside
        exact .inr (.index operator.kind_eq refused)
  | @group front group label descriptor fault sound inFront meant refused =>
      rcases sound.number_cases isNumber split with ⟨fits, inner, rfl⟩ | ⟨between, rfl, inside⟩
      · have among : group.number.token ∈ group.tokens := by simp [GroupPhrase.tokens]
        exact .inl ⟨fits, .inr ⟨group.number.token, List.mem_append_right _ among, rfl⟩⟩
      · have noNumber : group.hash.token.kind ≠ .number := by
          rw [group.hash.kind_eq]
          decide
        have free : ∀ token ∈ [group.equals.token, group.name.token], token.kind ≠ .number := by
          simp [group.equals.kind_eq, group.name.kind_eq]
        obtain ⟨rfl, rfl, rfl⟩ := only_number isNumber noNumber free inside
        exact .inr (.group group.hash.kind_eq inFront meant refused)

theorem Fits.index_resolves {operator : Token} (fits : Fits resolver (front ++ [operator]) number)
    (isOperator : operator.kind = .operator) :
    ∃ relation, resolver.resolve (indexed operator.text number.text).1
      (some (indexed operator.text number.text).2) = .ok relation := by
  generalize same : front ++ [operator] = before at fits
  cases fits with
  | index _ resolves =>
      cases (List.append_inj' same rfl).2
      exact ⟨_, resolves⟩
  | group isHash =>
      cases (List.append_inj' same rfl).2
      cases isOperator.symm.trans isHash

theorem Fits.group_present {hash : Token} (fits : Fits resolver (front ++ [hash]) number)
    (isHash : hash.kind = .hash) :
    ∃ label descriptor group, labelInFront front = some label ∧
      descriptorOf resolver.checkRegex label = .ok descriptor ∧
        groupNumber descriptor number.text = .ok group := by
  generalize same : front ++ [hash] = before at fits
  cases fits with
  | index isOperator =>
      cases (List.append_inj' same rfl).2
      cases isHash.symm.trans isOperator
  | group _ inFront meant has =>
      cases (List.append_inj' same rfl).1
      exact ⟨_, _, _, inFront, meant, has⟩

theorem Refused.index_refused {operator : Token}
    (refused : Refused resolver error (front ++ [operator]) number after)
    (isOperator : operator.kind = .operator) :
    ∃ cause, resolver.resolve (indexed operator.text number.text).1
      (some (indexed operator.text number.text).2) = .error cause ∧
        error = .invalidRelation cause operator.position := by
  generalize same : front ++ [operator] = before at refused
  cases refused with
  | index _ refused =>
      cases (List.append_inj' same rfl).2
      exact ⟨_, refused, rfl⟩
  | group isHash =>
      cases (List.append_inj' same rfl).2
      cases isOperator.symm.trans isHash
  | unfinished isHash =>
      cases (List.append_inj' same rfl).2
      cases isOperator.symm.trans isHash

theorem Refused.group_refused {hash : Token}
    (refused : Refused resolver error (front ++ [hash]) number after) (isHash : hash.kind = .hash)
    (finished : 2 ≤ after.length) :
    ∃ label descriptor fault, labelInFront front = some label ∧
      descriptorOf resolver.checkRegex label = .ok descriptor ∧
        groupNumber descriptor number.text = .error fault ∧
          error = .invalidGroupCapture number.text fault number.position := by
  generalize same : front ++ [hash] = before at refused
  cases refused with
  | index isOperator =>
      cases (List.append_inj' same rfl).2
      cases isHash.symm.trans isOperator
  | group _ inFront meant refused =>
      cases (List.append_inj' same rfl).1
      exact ⟨_, _, _, inFront, meant, refused, rfl⟩
  | unfinished _ short => exact absurd finished (Nat.not_le.2 short)

theorem Fits.marked (fits : Fits resolver before number) :
    ∃ front mark, before = front ++ [mark] ∧ mark.kind ∈ [TokenKind.operator, .hash] := by
  cases fits with
  | index isOperator => exact ⟨_, _, rfl, by simp [isOperator]⟩
  | group isHash => exact ⟨_, _, rfl, by simp [isHash]⟩

theorem Refused.marked (refused : Refused resolver error before number after) :
    ∃ front mark, before = front ++ [mark] ∧ mark.kind ∈ [TokenKind.operator, .hash] := by
  cases refused with
  | index isOperator => exact ⟨_, _, rfl, by simp [isOperator]⟩
  | group isHash => exact ⟨_, _, rfl, by simp [isHash]⟩
  | unfinished isHash => exact ⟨_, _, rfl, by simp [isHash]⟩

theorem run_tokens_numbers (resolver : Resolver) (tokens : List Token) :
    ∃ read, (TokenStream.ofTokens tokens).upcoming =
        read ++ leftBy (runTokens ⟨resolver, true⟩ tokens) ∧
      ∀ before number after, read = before ++ number :: after → number.kind = .number →
        (Fits resolver before number ∧
          ∀ error, parseTokens resolver tokens = .error error → error.Behind after) ∨
        ∃ error, parseTokens resolver tokens = .error error ∧
          Refused resolver error before number after := by
  obtain ⟨read, split, outcome⟩ := run_tokens_heeds resolver tokens
  refine ⟨read, split, ?_⟩
  intro before number after inside isNumber
  rcases outcome with ⟨parsed, accepted, sound⟩ | ⟨error, failed, halted⟩
  · refine .inl ⟨sound before number after inside isNumber, fun error failed => ?_⟩
    cases accepted.symm.trans failed
  · rcases halted.at_number isNumber inside with ⟨fits, behind⟩ | refused
    · refine .inl ⟨fits, fun other failedToo => ?_⟩
      cases failed.symm.trans failedToo
      exact behind
    · exact .inr ⟨error, failed, refused⟩

end Grammar

end TreeQuery

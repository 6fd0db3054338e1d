import Mathlib.Data.List.TakeWhile
import TreeQuery.Proofs.Printing.Relation

/- Numbers in patterns: which of them name a child of a node or a group of a regex. The digits of
   a number have no bound, and zeros in front of them do not count. -/
set_option autoImplicit false

namespace TreeQuery

open Grammar

structure IsNumber (text : Text) : Prop where
  nonempty : text ≠ []
  digits : ∀ c ∈ text, c.isDigit = true

theorem Token.Lexed.is_number {token : Token} (lexed : token.Lexed) (number : token.kind = .number) :
    IsNumber token.text := by
  obtain ⟨source, found⟩ := lexed
  rw [number] at found
  have read := lexeme_read_by found
  refine ⟨read.nonempty, ?_⟩
  generalize token.text = digits at read
  cases read with
  | number read =>
      simp only [numberLexeme?, Option.ite_none_left_eq_some, Option.some.injEq] at read
      rw [← read.2]
      intro c inside
      exact List.mem_takeWhile_imp inside
  | mark inside _ => simp [marks] at inside

namespace IsNumber

variable {number : Text} (isNumber : IsNumber number)

include isNumber

theorem taken : number.takeWhile Char.isDigit = number ∧ number.dropWhile Char.isDigit = [] := by
  have taken : number.takeWhile Char.isDigit = number :=
    List.takeWhile_eq_self_iff.2 isNumber.digits
  refine ⟨taken, List.dropWhile_eq_nil_iff.2 isNumber.digits⟩

theorem read : Numeral.read number = ⟨digitsValue number, []⟩ := by
  rw [Numeral.read_digits, isNumber.taken.1, isNumber.taken.2]
  exact fun c first => isNumber.digits c (List.mem_of_head? first)

theorem read_minus : Numeral.read ('-' :: number) = ⟨-(digitsValue number : Nat), []⟩ := by
  change (⟨-(digitsValue (number.takeWhile Char.isDigit) : Nat),
    number.dropWhile Char.isDigit⟩ : Numeral) = _
  rw [isNumber.taken.1, isNumber.taken.2]

theorem child_index : childIndex? number =
    if 1 ≤ digitsValue number ∧ digitsValue number ≤ 0x7fffffff then
      some (digitsValue number : Int)
    else none := by
  simp only [childIndex?, isNumber.read, true_and]
  congr 1
  simp only [eq_iff_iff]
  omega

theorem child_index_minus : childIndex? ('-' :: number) =
    if 1 ≤ digitsValue number ∧ digitsValue number ≤ 0x80000000 then
      some (-(digitsValue number : Int))
    else none := by
  simp only [childIndex?, isNumber.read_minus, true_and]
  congr 1
  simp only [eq_iff_iff]
  omega

end IsNumber

-- The relation of an operator with a number behind it. Four operators take the numbers of a
-- range: two count children from the left, two from the right. The other operators take none.
def numbered (operator number : Text) : Except RelationError RelationKind :=
  let n := digitsValue number
  match operator with
  | ['<'] =>
      if 1 ≤ n ∧ n ≤ 0x7fffffff then .ok (.hasChild n) else .error (.invalidIndex ['<'] number)
  | ['>'] =>
      if 1 ≤ n ∧ n ≤ 0x7fffffff then .ok (.childOf n) else .error (.invalidIndex ['>'] number)
  | ['<', '-'] =>
      if 1 ≤ n ∧ n ≤ 0x80000000 then .ok (.hasChild (-n))
      else .error (.invalidIndex ['<'] ('-' :: number))
  | ['>', '-'] =>
      if 1 ≤ n ∧ n ≤ 0x80000000 then .ok (.childOf (-n))
      else .error (.invalidIndex ['>'] ('-' :: number))
  | _ =>
      let (symbol, argument) := indexed operator number
      .error (.unexpectedArgument symbol argument)

namespace Resolver

variable {resolver : Resolver} {operator number argument : Text}

variable {inRange : Prop} [Decidable inRange] {index : Int}

theorem resolve_child (kind : Int → RelationKind) (refusal : RelationError)
    {result : Except RelationError Relation}
    (resolves : result = match childIndex? argument with
      | some index => .ok (.ofKind (kind index))
      | none => .error refusal)
    (read : childIndex? argument = if inRange then some index else none) :
    result = Except.map .ofKind (if inRange then .ok (kind index) else .error refusal) := by
  rw [resolves, read]
  by_cases holds : inRange
  · simp only [if_pos holds]
    rfl
  · simp only [if_neg holds]
    rfl

theorem indexed_symbol (operator number : Text) :
    (indexed operator number).1 = (indexed operator []).1 := by
  unfold indexed
  split <;> rfl

theorem plain_symbols : ∀ operator ∈ operators,
    operator ∉ [['<'], ['>'], ['<', '-'], ['>', '-']] →
      ∃ plain, PlainRelation.ofSymbol? (indexed operator []).1 = some plain ∧
        plain ≠ .immediatelyDominates ∧ plain ≠ .immediatelyDominatedBy := by
  decide

theorem resolve_unexpected (inside : operator ∈ operators)
    (other : operator ∉ [['<'], ['>'], ['<', '-'], ['>', '-']]) :
    resolver.resolve (indexed operator number).1 (some (indexed operator number).2) =
      .error (.unexpectedArgument (indexed operator number).1 (indexed operator number).2) := by
  obtain ⟨plain, named, notChild, notParent⟩ := plain_symbols operator inside other
  rw [← indexed_symbol operator number] at named
  simp only [resolve, resolveWith, Spells.operator_not_chain inside number, named]

/-- An operator and the number behind it resolve as the table of the four child operators says. -/
theorem resolve_numbered (inside : operator ∈ operators) (isNumber : IsNumber number) :
    resolver.resolve (indexed operator number).1 (some (indexed operator number).2) =
      (numbered operator number).map .ofKind := by
  by_cases child : operator ∈ [['<'], ['>'], ['<', '-'], ['>', '-']]
  · simp only [List.mem_cons, List.not_mem_nil, or_false] at child
    rcases child with rfl | rfl | rfl | rfl
    · exact resolve_child .hasChild _ rfl isNumber.child_index
    · exact resolve_child .childOf _ rfl isNumber.child_index
    · exact resolve_child .hasChild _ rfl isNumber.child_index_minus
    · exact resolve_child .childOf _ rfl isNumber.child_index_minus
  · rw [resolve_unexpected inside child]
    unfold numbered
    split <;> first | rfl | simp at child

end Resolver

def Descriptor.HasGroup (descriptor : Descriptor) (n : Nat) : Prop :=
  1 ≤ n ∧ n ≤ 0xffffffffffffffff ∧ ∀ regex, descriptor = .regex regex → n ≤ regex.captures

theorem group_number_eq_ok {descriptor : Descriptor} {number : Text} {group : Nat}
    (isNumber : IsNumber number) : groupNumber descriptor number = .ok group ↔
      descriptor.HasGroup (digitsValue number) ∧ digitsValue number = group := by
  have nonempty : [] ≠ number := fun none => isNumber.nonempty none.symm
  unfold groupNumber Descriptor.HasGroup
  simp only [isNumber.read, nonempty, false_or]
  split
  · simp only [reduceCtorEq, false_iff]
    rintro ⟨⟨positive, small, -⟩, -⟩
    omega
  · rename_i small
    split
    · simp only [reduceCtorEq, false_iff]
      rintro ⟨⟨positive, -, -⟩, -⟩
      omega
    · rename_i positive
      have inRange : 1 ≤ digitsValue number ∧ digitsValue number ≤ 0xffffffffffffffff := by omega
      cases descriptor with
      | regex regex =>
          simp only [Int.toNat_natCast, Descriptor.regex.injEq, forall_eq']
          split
          · simp only [reduceCtorEq, false_iff]
            rintro ⟨⟨-, -, within⟩, -⟩
            omega
          · rename_i present
            simp only [Except.ok.injEq, inRange, Nat.le_of_not_lt present, true_and]
      | identifier | blank | unspecified =>
          simp only [Int.toNat_natCast, Except.ok.injEq, inRange, reduceCtorEq, false_implies,
            implies_true, true_and]

end TreeQuery

import TreeQuery.Text.Numeral

/- Numerals that are written in decimal read back as the same number, with nothing
   behind it. -/
set_option autoImplicit false

namespace TreeQuery

namespace Text

theorem of_nat_digit {n : Nat} {c : Char} (inside : c ∈ Text.ofNat n) : c.isDigit = true :=
  Nat.isDigit_of_mem_toDigits (by decide) (by decide) inside

theorem of_nat_ne_nil (n : Nat) : Text.ofNat n ≠ [] := Nat.toDigits_ne_nil

theorem of_nat_takes (n : Nat) : (Text.ofNat n).takeWhile Char.isDigit = Text.ofNat n ∧
    (Text.ofNat n).dropWhile Char.isDigit = [] := by
  have digits : ∀ c ∈ Text.ofNat n, c.isDigit = true := fun _ inside => of_nat_digit inside
  have taken : (Text.ofNat n ++ []).takeWhile Char.isDigit = Text.ofNat n ++ [] :=
    List.takeWhile_append_of_pos digits
  have dropped : (Text.ofNat n ++ []).dropWhile Char.isDigit = [] :=
    List.dropWhile_append_of_pos digits
  simpa using And.intro taken dropped

end Text

theorem digits_value_of_nat (n : Nat) : digitsValue (Text.ofNat n) = n :=
  Nat.ofDigitChars_ten_toDigits

namespace Numeral

theorem read_digits {text : Text} (unsigned : ∀ c, text.head? = some c → c.isDigit = true) :
    read text = ⟨digitsValue (text.takeWhile Char.isDigit), text.dropWhile Char.isDigit⟩ := by
  cases text with
  | nil => rfl
  | cons c rest =>
      have digit := unsigned c rfl
      unfold read
      split
      · rename_i same
        cases same
        cases digit
      · rename_i same
        cases same
        cases digit
      · rfl

theorem read_of_nat (n : Nat) : read (Text.ofNat n) = ⟨n, []⟩ := by
  rw [read_digits, (Text.of_nat_takes n).1, (Text.of_nat_takes n).2, digits_value_of_nat]
  intro c first
  exact Text.of_nat_digit (List.mem_of_head? first)

theorem read_of_int (i : Int) : read (Text.ofInt i) = ⟨i, []⟩ := by
  unfold Text.ofInt
  split
  · rename_i negative
    change (⟨-(digitsValue ((Text.ofNat i.natAbs).takeWhile Char.isDigit) : Nat),
      (Text.ofNat i.natAbs).dropWhile Char.isDigit⟩ : Numeral) = _
    rw [(Text.of_nat_takes _).1, (Text.of_nat_takes _).2, digits_value_of_nat]
    simp only [mk.injEq, and_true]
    omega
  · rename_i natural
    rw [read_of_nat]
    simp only [mk.injEq, and_true]
    omega

end Numeral

end TreeQuery

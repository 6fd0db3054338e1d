import TreeQuery.Text.Basic

/- Decimal numerals: writing them, and reading an optional sign with the longest
   run of digits behind it. Values are unbounded; a bound is the business of
   whoever asked for the number. -/
set_option autoImplicit false

namespace TreeQuery

def Text.ofNat (n : Nat) : Text := Nat.toDigits 10 n

def Text.ofInt (i : Int) : Text :=
  if i < 0 then '-' :: Text.ofNat i.natAbs else Text.ofNat i.natAbs

def digitValue (c : Char) : Nat := c.toNat - '0'.toNat

def digitsValue (digits : Text) : Nat :=
  digits.foldl (fun value c => 10 * value + digitValue c) 0

structure Numeral where
  value : Int
  rest : Text
deriving DecidableEq

-- Reads an optional sign and the longest run of digits. Without digits the
-- value is zero.
def Numeral.read : Text → Numeral
  | '-' :: text => ⟨-(digitsValue (text.takeWhile Char.isDigit)), text.dropWhile Char.isDigit⟩
  | '+' :: text => ⟨digitsValue (text.takeWhile Char.isDigit), text.dropWhile Char.isDigit⟩
  | text => ⟨digitsValue (text.takeWhile Char.isDigit), text.dropWhile Char.isDigit⟩

end TreeQuery

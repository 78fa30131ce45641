/-!
Hexadecimal digits: written in small letters, and read in letters of either case.
-/

namespace Descent.Text

/-- The hexadecimal digits of a number, without leading zeros. -/
def hexDigits (n : Nat) : List Char := Nat.toDigits 16 n

/-- The value of a hexadecimal digit. -/
def hexDigitValue? (c : Char) : Option Nat :=
  if c.isDigit then some (c.toNat - '0'.toNat)
  else if 'a' ≤ c ∧ c ≤ 'f' then some (c.toNat - 'a'.toNat + 10)
  else if 'A' ≤ c ∧ c ≤ 'F' then some (c.toNat - 'A'.toNat + 10)
  else none

/-- The digit that is written for a value is read back. -/
theorem hexDigitValue?_digitChar : ∀ n < 16, hexDigitValue? (Nat.digitChar n) = some n := by
  decide

end Descent.Text

/-! # Hexadecimal digits

A digit is written in one case, which the format chooses, and read in either.

Main statement: a digit that was written in lower case is read back.
-/

namespace CodeBridge.Text

/-- Lower-case digit of a number below sixteen. -/
def lowerHexDigit (n : Nat) : Char :=
  if n < 10 then .ofNat ('0'.toNat + n) else .ofNat ('a'.toNat + (n - 10))

/-- Upper-case digit of a number below sixteen. -/
def upperHexDigit (n : Nat) : Char :=
  if n < 10 then .ofNat ('0'.toNat + n) else .ofNat ('A'.toNat + (n - 10))

/-- The value of a digit in either case. -/
def hexValue? (c : Char) : Option Nat :=
  if '0' ≤ c ∧ c ≤ '9' then some (c.toNat - '0'.toNat)
  else if 'a' ≤ c ∧ c ≤ 'f' then some (c.toNat - 'a'.toNat + 10)
  else if 'A' ≤ c ∧ c ≤ 'F' then some (c.toNat - 'A'.toNat + 10)
  else none

theorem hexValue?_lowerHexDigit {n : Nat} (small : n < 16) :
    hexValue? (lowerHexDigit n) = some n := by
  have digits : ∀ m : Fin 16, hexValue? (lowerHexDigit m) = some m.val := by decide
  exact digits ⟨n, small⟩

end CodeBridge.Text

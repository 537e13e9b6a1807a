import CodeBridge.Numeric.Binary64

/-! # Shortest decimals

The fewest decimal digits that still name a double: the reals that round to it form an interval, and
of the decimals in it those with the fewest digits are taken, and of these the nearest. Among the
decimals with a number of digits it is enough to look at the two neighbours of the double, since the
interval is around it.
-/

namespace CodeBridge.Numeric

/-- A decimal `d.ddd * 10 ^ exponent`. -/
structure Decimal where
  /-- The digits from the first one on, with no zero at the end. -/
  digits : List Char
  exponent : Int
  deriving DecidableEq, Repr, Inhabited

/-- The decimal of a whole number that is not zero, times a power of ten. -/
def Decimal.ofScaled (n : Nat) (place : Int) : Decimal :=
  let digits := Nat.toDigits 10 n
  ⟨(digits.reverse.dropWhile (· = '0')).reverse, place + digits.length - 1⟩

namespace Binary64

/-- Whether a quotient of units rounds to a size. The next double below a power of two is only half
as far away as the one above. -/
def roundsTo (size numerator denominator : Nat) : Bool :=
  let shift := excessBits size
  let above := 1 <<< shift
  let below := if 0 < shift ∧ size = 1 <<< Nat.log2 size then 1 <<< (shift - 1) else above
  let lower := (4 * size - 2 * below) * denominator
  let upper := (4 * size + 2 * above) * denominator
  if (size >>> shift) % 2 = 0 then lower ≤ 4 * numerator && 4 * numerator ≤ upper
  else lower < 4 * numerator && 4 * numerator < upper

/-- The place of the first decimal digit of a size that is not zero. -/
def leadingPlace (size : Nat) : Int :=
  if unitsPerOne ≤ size then (Nat.toDigits 10 (size / unitsPerOne)).length - 1
  else -((Nat.toDigits 10 ((unitsPerOne - 1) / size)).length : Int)

/-- The decimal with `count` digits that rounds to a size, the nearer one if there are two. -/
def decimalOf? (size count : Nat) : Option Decimal :=
  let place := leadingPlace size - count + 1
  let step := unitsPerOne * Nat.pow 10 place.toNat
  let scale := Nat.pow 10 (-place).toNat
  let nearest := roundQuotient (size * scale) step
  let other := if nearest * step ≤ size * scale then nearest + 1 else nearest - 1
  if roundsTo size (nearest * step) scale then some (.ofScaled nearest place)
  else if roundsTo size (other * step) scale then some (.ofScaled other place)
  else none

/-- Seventeen digits tell any two doubles apart. -/
def enoughDigits : Nat := 17

/-- The shortest decimal of a size that is not zero. -/
def shortest (size : Nat) : Decimal :=
  let tries := (List.range enoughDigits).map (· + 1)
  (tries.findSome? (decimalOf? size)).getD ⟨['0'], 0⟩

end Binary64

end CodeBridge.Numeric

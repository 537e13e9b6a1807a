/-! # Doubles

The finite numbers of the 64-bit binary floating-point format, in exact arithmetic. Every one of
them is a whole number of units of `2 ^ -1074` with at most 53 significant bits, so a double is
kept as its sign and that whole number, and an operation is the exact result rounded once.
-/

namespace CodeBridge.Numeric

/-- The whole number nearest to a quotient; halfway between two, the even one. -/
def roundQuotient (numerator denominator : Nat) : Nat :=
  let whole := numerator / denominator
  let twice := 2 * (numerator % denominator)
  if denominator < twice ∨ (twice = denominator ∧ whole % 2 = 1) then whole + 1 else whole

/-- A finite double. -/
structure Binary64 where
  negative : Bool
  /-- The size in units of `2 ^ -1074`. -/
  units : Nat
  deriving DecidableEq, Repr, Inhabited

namespace Binary64

/-- A double has this many units for each whole number. -/
def unitsPerOne : Nat := 1 <<< 1074

/-- No finite double has this many units. -/
def overflow : Nat := 1 <<< 2098

/-- Significant bits of a double. -/
def precision : Nat := 53

/-- How many bits of a number of units lie below the precision. -/
def excessBits (units : Nat) : Nat :=
  Nat.log2 units + 1 - precision

/-- A quotient of units rounded to the precision of doubles. -/
def roundUnits (numerator denominator : Nat) : Nat :=
  let shift := excessBits (numerator / denominator)
  roundQuotient numerator (denominator <<< shift) <<< shift

/-- A size that is not too large for a double. -/
def finite? (units : Nat) : Option Nat :=
  if units < overflow then some units else none

/-- The size nearest to a whole number that is below `2 ^ 1024`. -/
def unitsOfNat (n : Nat) : Nat :=
  roundUnits (n * unitsPerOne) 1

/-- The product of two sizes. -/
def mulUnits (a b : Nat) : Nat :=
  roundUnits (a * b) unitsPerOne

/-- The quotient of two sizes. -/
def divUnits (a b : Nat) : Nat :=
  roundUnits (a * unitsPerOne) b

/-- Numbers of at least this size round to no finite double. -/
def finiteBound : Nat := (1 <<< 1024) - (1 <<< 970)

/-- Whether `significand * 10 ^ scale` rounds to a finite double. -/
def isFiniteDecimal (significand : Nat) (scale : Int) : Bool :=
  let size := (Nat.toDigits 10 significand).length + scale
  if significand = 0 ∨ size ≤ 308 then true
  else if 310 ≤ size then false
  else significand * Nat.pow 10 scale.toNat < finiteBound * Nat.pow 10 (-scale).toNat

end Binary64

end CodeBridge.Numeric

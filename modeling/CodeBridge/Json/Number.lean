import CodeBridge.Numeric.Shortest

/-! # Numbers in JSON

A number with a fraction or an exponent is read as a double, digit by digit: digits are gathered
into a 64-bit significand while it can take them, and the double of the significand is then
multiplied or divided by a power of ten. That takes two roundings, so that a number with many
digits may come out as a neighbour of the double that is nearest to it.

Doubles are written with the fewest digits that name them: positionally when the first digit lies
between the places `-5` and `15`, and always with a point then; with an exponent otherwise.
-/

namespace CodeBridge.Json

open Numeric

/-! ## Reading -/

/-- Digits gathered so far, and the power of ten that they are to be multiplied with. -/
structure Gathered where
  significand : Nat
  power : Int
  /-- Digits no longer fit. -/
  full : Bool
  deriving DecidableEq, Repr

namespace Gathered

/-- Takes a digit into the significand, if it still fits. -/
def push? (gathered : Gathered) (digit : Char) : Option Nat :=
  let significand := gathered.significand * 10 + (digit.toNat - '0'.toNat)
  if significand < UInt64.size then some significand else none

/-- One more digit before the point. Once a digit did not fit, each one counts for its place. -/
def whole (gathered : Gathered) (digit : Char) : Gathered :=
  if gathered.full then { gathered with power := gathered.power + 1 }
  else
    match gathered.push? digit with
    | some significand => { gathered with significand := significand }
    | none => { gathered with power := gathered.power + 1, full := true }

/-- One more digit behind the point. Once a digit did not fit, all others are dropped. -/
def place (gathered : Gathered) (digit : Char) : Gathered :=
  if gathered.full then gathered
  else
    match gathered.push? digit with
    | some significand =>
      { gathered with significand := significand, power := gathered.power - 1 }
    | none => { gathered with full := true }

/-- The digits of a number before and behind its point. -/
def ofDigits (whole places : List Char) : Gathered :=
  let gathered := whole.foldl Gathered.whole ⟨0, 0, false⟩
  places.foldl Gathered.place { gathered with full := false }

end Gathered

/-- Powers of ten up to this one are doubles. -/
def maxPower : Nat := 308

/-- The double nearest to a power of ten. -/
def powerUnits (power : Nat) : Nat :=
  Binary64.unitsOfNat (Nat.pow 10 power)

/-- A size divided by a power of ten, in steps of at most the largest power. -/
def shrink (size power : Nat) : Nat :=
  if power ≤ maxPower then Binary64.divUnits size (powerUnits power)
  else if size = 0 then 0
  else shrink (Binary64.divUnits size (powerUnits maxPower)) (power - maxPower)
termination_by power
decreasing_by simp only [maxPower] at *; omega

/-- The size of gathered digits with an exponent; a size that no double has is none. -/
def size? (gathered : Gathered) (exponent : Int) : Option Nat :=
  let size := Binary64.unitsOfNat gathered.significand
  match gathered.power + exponent with
  | .ofNat power =>
    if size = 0 then some 0
    else if power ≤ maxPower then Binary64.finite? (Binary64.mulUnits size (powerUnits power))
    else none
  | .negSucc power => some (shrink size (power + 1))

/-! ## Writing -/

/-- A decimal without exponent. -/
def positional (decimal : Decimal) : List Char :=
  match decimal.exponent with
  | .ofNat places =>
    let digits := decimal.digits ++ List.replicate (places + 1 - decimal.digits.length) '0'
    let fraction := digits.drop (places + 1)
    digits.take (places + 1) ++ '.' :: (if fraction.isEmpty then ['0'] else fraction)
  | .negSucc zeros => '0' :: '.' :: (List.replicate zeros '0' ++ decimal.digits)

/-- A decimal with its exponent, which has a sign in every case. -/
def scientific (decimal : Decimal) : List Char :=
  let fraction := decimal.digits.drop 1
  let exponent := Nat.toDigits 10 decimal.exponent.natAbs
  decimal.digits.take 1 ++ (if fraction.isEmpty then [] else '.' :: fraction) ++
    'e' :: (if decimal.exponent < 0 then '-' else '+') :: exponent

/-- A double as it is written. -/
def charsOfReal (value : Binary64) : List Char :=
  let size :=
    if value.units = 0 then ['0', '.', '0']
    else
      let decimal := Binary64.shortest value.units
      if -5 ≤ decimal.exponent ∧ decimal.exponent ≤ 15 then positional decimal
      else scientific decimal
  if value.negative then '-' :: size else size

end CodeBridge.Json

/-! # Punycode

A text of any characters written in letters, digits and hyphens: first its ASCII characters, then,
behind a hyphen, where the other characters belong. The others are written in the order of their
code points, each as the distance from the one before in the sequence of all pairs of a code point
and a place in the text. A distance is a number of base 36 with digits of varying weight, the least
significant first; how the weights grow adapts to the distances so far.
-/

namespace CodeBridge.Uri.Punycode

/-! ## Digits and weights -/

/-- The letter or digit of a number below 36. -/
def digitChar (n : Nat) : Char :=
  if n < 26 then .ofNat ('a'.toNat + n) else .ofNat ('0'.toNat + (n - 26))

/-- The number of a letter or digit. -/
def digitValue? (c : Char) : Option Nat :=
  if 'a' ≤ c ∧ c ≤ 'z' then some (c.toNat - 'a'.toNat)
  else if 'A' ≤ c ∧ c ≤ 'Z' then some (c.toNat - 'A'.toNat)
  else if '0' ≤ c ∧ c ≤ '9' then some (c.toNat - '0'.toNat + 26)
  else none

/-- A digit below this one ends a distance; `position` is 36 for the first digit, 72 for the second
and so on. -/
def threshold (bias position : Nat) : Nat :=
  min 26 (max 1 (position - bias))

theorem threshold_pos (bias position : Nat) : 0 < threshold bias position := by
  unfold threshold
  omega

theorem threshold_le (bias position : Nat) : threshold bias position ≤ 26 := by
  unfold threshold
  omega

/-- Scales a distance down to where the weights begin, counting the positions. -/
def scaleDown (distance position : Nat) : Nat :=
  if 455 < distance then scaleDown (distance / 35) (position + 36)
  else position + 36 * distance / (distance + 38)
termination_by distance
decreasing_by exact Nat.div_lt_self (by omega) (by omega)

/-- The bias after a distance to a text of `length` characters. -/
def adapt (distance length : Nat) (first : Bool) : Nat :=
  let distance := if first then distance / 700 else distance / 2
  scaleDown (distance + distance / length) 0

def firstBias : Nat := 72
def firstCode : Nat := 0x80

/-! ## Writing -/

/-- The digits of a distance from a position on. -/
def digitsOf (bias position distance : Nat) : List Char :=
  let t := threshold bias position
  if distance < t then [digitChar distance]
  else
    digitChar (t + (distance - t) % (36 - t)) ::
      digitsOf bias (position + 36) ((distance - t) / (36 - t))
termination_by distance
decreasing_by
  have low := threshold_pos bias position
  have high := threshold_le bias position
  have small := Nat.div_le_self (distance - threshold bias position)
    (36 - threshold bias position)
  omega

/-- What is written of a text so far. -/
structure Writing where
  /-- Digits, newest first. -/
  digits : List Char
  distance : Nat
  bias : Nat
  /-- Number of characters of the text that are written. -/
  length : Nat
  /-- Number of its ASCII characters. -/
  basic : Nat

/-- Passes one character of the text while those with a code are written. -/
def Writing.pass (code : Nat) (writing : Writing) (c : Char) : Writing :=
  if c.toNat < code then { writing with distance := writing.distance + 1 }
  else if c.toNat = code then
    { writing with
      digits := (digitsOf writing.bias 36 writing.distance).reverse ++ writing.digits
      distance := 0
      bias := adapt writing.distance (writing.length + 1) (writing.length = writing.basic)
      length := writing.length + 1 }
  else writing

/-- Writes all characters of the text with one of some codes, which go up from `next` on. -/
def Writing.run (text : List Char) (next : Nat) (writing : Writing) : List Nat → Writing
  | [] => writing
  | code :: codes =>
    let writing :=
      { writing with distance := writing.distance + (code - next) * (writing.length + 1) }
    let writing := text.foldl (pass code) writing
    run text (code + 1) { writing with distance := writing.distance + 1 } codes

/-- Puts a number among numbers that go up, unless it is there. -/
def insertCode (code : Nat) : List Nat → List Nat
  | [] => [code]
  | other :: codes =>
    if code < other then code :: other :: codes
    else if code = other then other :: codes
    else other :: insertCode code codes

/-- The codes of the characters beyond ASCII, going up. -/
def codesOf (text : List Char) : List Nat :=
  (text.filter fun c => firstCode ≤ c.toNat).foldl (fun codes c => insertCode c.toNat codes) []

/-- The written form of a text. -/
def encode (text : List Char) : List Char :=
  let basic := text.filter fun c => c.toNat < firstCode
  let start : Writing := ⟨[], 0, firstBias, basic.length, basic.length⟩
  let written := Writing.run text firstCode start (codesOf text)
  basic ++ (if basic.isEmpty then [] else ['-']) ++ written.digits.reverse

/-! ## Reading -/

/-- What is read of a written form so far. -/
structure Reading where
  text : List Char
  code : Nat := firstCode
  bias : Nat := firstBias
  /-- The place in the text behind the last character that was put in. -/
  place : Nat := 0
  /-- The part of the next distance that is read, the weight of its next digit, and the position of
  that digit. -/
  distance : Nat := 0
  weight : Nat := 1
  position : Nat := 36

/-- Puts in the character at the end of a distance. -/
def Reading.put? (reading : Reading) (distance : Nat) : Option Reading :=
  let length := reading.text.length + 1
  let target := reading.place + distance
  let code := reading.code + target / length
  let place := target % length
  if code.isValidChar then
    some {
      text := reading.text.take place ++ .ofNat code :: reading.text.drop place
      code := code
      bias := adapt distance length (reading.place = 0)
      place := place + 1 }
  else none

/-- Reads a digit. Distances and weights have 32 bits. -/
def Reading.digit? (reading : Reading) (c : Char) : Option Reading := do
  let digit ← digitValue? c
  let distance := reading.distance + digit * reading.weight
  let t := threshold reading.bias reading.position
  if digit < t then reading.put? distance
  else
    let weight := reading.weight * (36 - t)
    if distance < UInt32.size ∧ weight < UInt32.size then
      some { reading with
        distance := distance, weight := weight, position := reading.position + 36 }
    else none

/-- The text of a written form. -/
def decode? (written : List Char) : Option (List Char) := do
  let back := written.reverse
  let basic := (back.dropWhile (· ≠ '-')).drop 1
  let digits := if basic.isEmpty then written else (back.takeWhile (· ≠ '-')).reverse
  let reading ← digits.foldlM Reading.digit? { text := basic.reverse }
  if reading.position = 36 then some reading.text else none

end CodeBridge.Uri.Punycode

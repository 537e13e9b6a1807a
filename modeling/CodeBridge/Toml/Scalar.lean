import CodeBridge.Numeric.Binary64
import CodeBridge.Text.HexDigit
import CodeBridge.Text.Runs

/-! # Numbers and date-times

The forms of the TOML scalars that are neither strings nor booleans. A run of characters is a
number if an underscore, where there is one, stands between two digits. An integer has to fit 64
bits, a number with a fraction or an exponent must not be too large for a double, and a date has to
be one of the calendar.
-/

namespace CodeBridge.Toml

/-- The number of a run of digits of a base. -/
def natOfDigits? (base : Nat) (cs : List Char) : Option Nat :=
  if cs.isEmpty then none
  else cs.foldlM (fun n c => do
    let digit ← Text.hexValue? c
    if digit < base then some (n * base + digit) else none) 0

/-- The number of a run of digits in which single underscores may stand between digits. -/
def natOfGroups? (base : Nat) (cs : List Char) : Option Nat :=
  let groups := Text.runs (· == '_') cs
  if groups.any List.isEmpty then none else natOfDigits? base groups.flatten

/-- A decimal number without a leading zero. -/
def plainNat? (cs : List Char) : Option Nat :=
  if 1 < cs.length ∧ cs.head? = some '0' then none else natOfGroups? 10 cs

def unsigned : List Char → List Char
  | '+' :: rest | '-' :: rest => rest
  | cs => cs

/-- Integers are signed and have 64 bits. -/
def integerBound : Nat := UInt64.size / 2

def isInteger (cs : List Char) : Bool :=
  match cs with
  | '0' :: 'x' :: digits => (natOfGroups? 16 digits).any (· < integerBound)
  | '0' :: 'o' :: digits => (natOfGroups? 8 digits).any (· < integerBound)
  | '0' :: 'b' :: digits => (natOfGroups? 2 digits).any (· < integerBound)
  | '-' :: digits => (plainNat? digits).any (· ≤ integerBound)
  | _ => (plainNat? (unsigned cs)).any (· < integerBound)

/-- The part before the first of some marks, and the part from it on. -/
def breakAt (marks : List Char) (cs : List Char) : List Char × List Char :=
  (cs.takeWhile (!marks.contains ·), cs.dropWhile (!marks.contains ·))

/-- An exponent with its sign; the power is zero where there is none. -/
def exponent? : List Char → Option Int
  | [] => some 0
  | _ :: '-' :: digits => (natOfGroups? 10 digits).map fun n => -(n : Int)
  | _ :: power => (natOfGroups? 10 (unsigned power)).map fun n => (n : Int)

/-- The digits behind a point, and the number of them. -/
def places? (cs : List Char) : Option (Nat × Nat) :=
  (natOfGroups? 10 cs).map fun n => (n, (cs.filter (· ≠ '_')).length)

/-- The whole number and the power of ten of a number with a fraction or an exponent. -/
def decimal? (cs : List Char) : Option (Nat × Int) := do
  let (whole, rest) := breakAt ['.', 'e', 'E'] cs
  let whole ← plainNat? whole
  match rest with
  | [] => none
  | '.' :: rest =>
    let (places, rest) := breakAt ['e', 'E'] rest
    let (fraction, count) ← places? places
    let exponent ← exponent? rest
    some (whole * Nat.pow 10 count + fraction, exponent - count)
  | rest =>
    let exponent ← exponent? rest
    some (whole, exponent)

/-- A number with a fraction or an exponent, an infinity, or no number at all. A number above zero
must not round to infinity. -/
def isFloat (cs : List Char) : Bool :=
  let body := unsigned cs
  if body = ['i', 'n', 'f'] ∨ body = ['n', 'a', 'n'] then true
  else
    match decimal? body with
    | some (significand, scale) =>
      cs.head? = some '-' || Numeric.Binary64.isFiniteDecimal significand scale
    | none => false

/-! ## Dates and times -/

/-- The number of exactly `count` decimal digits. -/
def fixedNat? (count : Nat) (cs : List Char) : Option Nat :=
  if cs.length = count then natOfDigits? 10 cs else none

def daysIn (year month : Nat) : Nat :=
  if month = 2 then
    if year % 4 = 0 ∧ (year % 100 ≠ 0 ∨ year % 400 = 0) then 29 else 28
  else if [4, 6, 9, 11].contains month then 30
  else 31

def isDate (cs : List Char) : Bool :=
  match Text.runs (· == '-') cs with
  | [year, month, day] =>
    match fixedNat? 4 year, fixedNat? 2 month, fixedNat? 2 day with
    | some year, some month, some day =>
      1 ≤ month && month ≤ 12 && 1 ≤ day && day ≤ daysIn year month
    | _, _, _ => false
  | _ => false

def isHourMinute (hour minute : List Char) : Bool :=
  (fixedNat? 2 hour).any (· < 24) && (fixedNat? 2 minute).any (· < 60)

def isTime (cs : List Char) : Bool :=
  match Text.runs (· == ':') cs with
  | [hour, minute, second] =>
    let (whole, rest) := breakAt ['.'] second
    isHourMinute hour minute && (fixedNat? 2 whole).any (· ≤ 60) &&
    match rest with
    | [] => true
    | _ :: places => (natOfDigits? 10 places).isSome
  | _ => false

/-- The distance of a time zone from the universal time. -/
def isZone (cs : List Char) : Bool :=
  match cs with
  | ['Z'] | ['z'] => true
  | '+' :: rest | '-' :: rest =>
    match Text.runs (· == ':') rest with
    | [hour, minute] => isHourMinute hour minute
    | _ => false
  | _ => false

/-- A time with or without a zone. -/
def isZonedTime (cs : List Char) : Bool :=
  let (time, zone) := breakAt ['Z', 'z', '+', '-'] cs
  isTime time && (zone.isEmpty || isZone zone)

def isDateTime (cs : List Char) : Bool :=
  let date := cs.take 10
  match cs.drop 10 with
  | [] => isDate date
  | mark :: time => isDate date && ['T', 't', ' '].contains mark && isZonedTime time

/-- Whether a run of characters is a number, a date or a time. -/
def isScalar (cs : List Char) : Bool :=
  isInteger cs || isFloat cs || isDateTime cs || isTime cs

/-- Characters of which scalars are made, blanks apart. -/
def isScalarChar (c : Char) : Bool :=
  c.isAlphanum || ['+', '-', '_', '.', ':'].contains c

/-- The scalar at the front, which may hold one blank between a date and a time. -/
def scalar? (cs : List Char) : Option (List Char) :=
  let run := cs.takeWhile isScalarChar
  match cs.dropWhile isScalarChar with
  | ' ' :: d :: rest =>
    if isDate run && d.isDigit then
      let time := (d :: rest).takeWhile isScalarChar
      if isDateTime (run ++ ' ' :: time) then some ((d :: rest).dropWhile isScalarChar) else none
    else if isScalar run then some (' ' :: d :: rest) else none
  | rest => if isScalar run then some rest else none

end CodeBridge.Toml

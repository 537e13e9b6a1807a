import CodeBridge.Text.HexDigit
import CodeBridge.Text.Runs

/-! # Addresses of eight pieces

The addresses that stand in brackets: eight pieces of sixteen bits in hexadecimal with colons
between them. Two colons side by side stand for as many zero pieces as are missing, at least one,
and four decimal bytes may stand for the last two pieces. An address is written with the longest
run of zero pieces left out, the first one of several, unless it is a single piece.
-/

namespace CodeBridge.Uri

/-- The pieces of an address, of which there are eight. -/
abbrev Ipv6 := List Nat

namespace Ipv6

/-! ## Reading -/

/-- A piece: one to four hexadecimal digits. -/
def piece? (cs : List Char) : Option Nat :=
  if cs.isEmpty ∨ 4 < cs.length then none
  else cs.foldlM (fun n c => (Text.hexValue? c).map (n * 16 + ·)) 0

/-- A byte in decimal, without a zero in front. -/
def byte? (cs : List Char) : Option Nat :=
  if cs.isEmpty ∨ 3 < cs.length ∨ !cs.all Char.isDigit ∨ (1 < cs.length ∧ cs.head? = some '0') then
    none
  else
    let n := cs.foldl (fun n c => n * 10 + (c.toNat - '0'.toNat)) 0
    if n < 256 then some n else none

/-- The two pieces of four decimal bytes. -/
def bytes? (cs : List Char) : Option (List Nat) :=
  match (Text.runs (· == '.') cs).mapM byte? with
  | some [a, b, c, d] => some [a * 256 + b, c * 256 + d]
  | _ => none

/-- The pieces between colons, of which the last may be four decimal bytes. -/
def pieces? : List (List Char) → Option (List Nat)
  | [] => some []
  | [last] => if last.contains '.' then bytes? last else (piece? last).map ([·])
  | first :: rest => do
    let piece ← piece? first
    let pieces ← pieces? rest
    some (piece :: pieces)

/-- The pieces of a side of the double colon, which may be empty. -/
def side? (cs : List Char) : Option (List Nat) :=
  if cs.isEmpty then some [] else pieces? (Text.runs (· == ':') cs)

/-- The parts before and behind the first double colon, if there is one. -/
def splitDouble : List Char → Option (List Char × List Char)
  | ':' :: ':' :: rest => some ([], rest)
  | c :: rest => (splitDouble rest).map fun (front, back) => (c :: front, back)
  | [] => none

/-- The address between brackets. -/
def parse? (cs : List Char) : Option Ipv6 :=
  match splitDouble cs with
  | none => do
    let pieces ← side? cs
    if pieces.length = 8 then some pieces else none
  | some (front, back) => do
    if front.contains '.' then none
    else
      let front ← side? front
      let back ← side? back
      if front.length + back.length ≤ 7 then
        some (front ++ List.replicate (8 - (front.length + back.length)) 0 ++ back)
      else none

/-! ## Writing -/

/-- The number of zero pieces at the front. -/
def leadingZeros (pieces : List Nat) : Nat :=
  (pieces.takeWhile (· = 0)).length

/-- Where the longest run of zero pieces begins, and how long it is; the first one of several. -/
def longestZeros (place : Nat) : List Nat → Nat × Nat
  | [] => (place, 0)
  | piece :: rest =>
    let here := leadingZeros (piece :: rest)
    let later := longestZeros (place + 1) rest
    if later.2 ≤ here then (place, here) else later

/-- Pieces in hexadecimal with colons between them. -/
def renderPieces (pieces : List Nat) : List Char :=
  [':'].intercalate (pieces.map (Nat.toDigits 16))

/-- An address in brackets. -/
def render (address : Ipv6) : List Char :=
  let (place, length) := longestZeros 0 address
  let body :=
    if 2 ≤ length then
      renderPieces (address.take place) ++ [':', ':'] ++
        renderPieces (address.drop (place + length))
    else renderPieces address
  '[' :: (body ++ [']'])

end Ipv6

end CodeBridge.Uri

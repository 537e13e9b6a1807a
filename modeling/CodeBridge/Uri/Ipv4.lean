import CodeBridge.Text.HexDigit
import CodeBridge.Text.Runs

/-! # Addresses of four bytes

A host whose last part is a number is an address. It has up to four parts, each decimal, octal (a
zero in front) or hexadecimal (`0x` in front). All parts but the last are bytes, and the last one
fills the bytes that are left.
-/

namespace CodeBridge.Uri

/-- An address of 32 bits. -/
abbrev Ipv4 := Nat

namespace Ipv4

/-- The number of a run of digits of a base; no digits at all are zero. -/
def natOfDigits? (base : Nat) (digits : List Char) : Option Nat :=
  digits.foldlM (fun n c => do
    let digit ← Text.hexValue? c
    if digit < base then some (n * base + digit) else none) 0

/-- The number of a part. -/
def number? : List Char → Option Nat
  | [] => none
  | '0' :: 'x' :: digits | '0' :: 'X' :: digits => natOfDigits? 16 digits
  | '0' :: c :: digits => natOfDigits? 8 (c :: digits)
  | digits => natOfDigits? 10 digits

/-- The parts of a host name; a dot at the end ends the last one. -/
def parts (host : List Char) : List (List Char) :=
  match (Text.runs (· == '.') host).reverse with
  | [] :: last :: rest => (last :: rest).reverse
  | _ => Text.runs (· == '.') host

/-- Whether a host is meant to be an address: its last part is a number, if only in appearance. -/
def isMeant (host : List Char) : Bool :=
  match (parts host).getLast? with
  | none | some [] => false
  | some last => last.all Char.isDigit || (number? last).isSome

/-- The address of bytes and a last number behind them. -/
def ofNumbers? : List Nat → Option Ipv4
  | [] => none
  | numbers@(_ :: _) =>
    let bytes := numbers.dropLast
    let last := numbers.getLast?.getD 0
    if 3 < bytes.length ∨ bytes.any (256 ≤ ·) ∨ Nat.pow 256 (4 - bytes.length) ≤ last then none
    else
      let high := bytes.foldl (fun n byte => n * 256 + byte) 0
      some (high * Nat.pow 256 (4 - bytes.length) + last)

def parse? (host : List Char) : Option Ipv4 := do
  ofNumbers? (← (parts host).mapM number?)

/-- The four bytes in decimal. -/
def render (address : Ipv4) : List Char :=
  ['.'].intercalate ([24, 16, 8, 0].map fun shift => Nat.toDigits 10 ((address >>> shift) % 256))

end Ipv4

end CodeBridge.Uri

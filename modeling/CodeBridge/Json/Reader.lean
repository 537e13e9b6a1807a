import CodeBridge.Json.Number
import CodeBridge.Json.Value
import CodeBridge.Text.HexDigit

/-! # Reading JSON

A strict reader: no byte order mark, comments, trailing commas, leading zeros or raw control
characters, and nothing but blanks around the one value. Every function takes the characters that
are left and returns what it read with the characters after it.
-/

namespace CodeBridge.Json

def isBlank (c : Char) : Bool :=
  c == ' ' || c == '\t' || c == '\n' || c == '\r'

def skipBlanks (cs : List Char) : List Char :=
  cs.dropWhile isBlank

/-! ## Strings -/

/-- A piece of a string: a character, or one half of a surrogate pair that an escape spells. -/
inductive Piece where
  | char (c : Char)
  | surrogate (unit : Nat)
  deriving DecidableEq, Repr

/-- The piece that a code unit stands for. -/
def Piece.ofUnit (unit : Nat) : Piece :=
  if 0xD800 ≤ unit ∧ unit < 0xE000 then .surrogate unit else .char (.ofNat unit)

/-- The code unit of four hexadecimal digits. -/
def unit? (a b c d : Char) : Option Nat := do
  let a ← Text.hexValue? a
  let b ← Text.hexValue? b
  let c ← Text.hexValue? c
  let d ← Text.hexValue? d
  some (((a * 16 + b) * 16 + c) * 16 + d)

/-- The character of a two-character escape. -/
def escaped? : Char → Option Char
  | '"' => some '"'
  | '\\' => some '\\'
  | '/' => some '/'
  | 'b' => some '\x08'
  | 'f' => some '\x0c'
  | 'n' => some '\n'
  | 'r' => some '\r'
  | 't' => some '\t'
  | _ => none

/-- The pieces up to the closing quote, behind those already read (newest first). -/
def pieces (read : List Piece) : List Char → Option (List Piece × List Char)
  | [] => none
  | '"' :: rest => some (read.reverse, rest)
  | '\\' :: 'u' :: a :: b :: c :: d :: rest =>
    match unit? a b c d with
    | some unit => pieces (.ofUnit unit :: read) rest
    | none => none
  | '\\' :: e :: rest =>
    match escaped? e with
    | some c => pieces (.char c :: read) rest
    | none => none
  | c :: rest => if c.toNat < 0x20 ∨ c = '\\' then none else pieces (.char c :: read) rest

/-- The text of a list of pieces, if each surrogate has its other half right beside it. -/
def spell? : List Piece → Option (List Char)
  | [] => some []
  | .char c :: rest => (spell? rest).map (c :: ·)
  | .surrogate high :: .surrogate low :: rest =>
    if high < 0xDC00 ∧ 0xDC00 ≤ low then
      (spell? rest).map (.ofNat (0x10000 + (high - 0xD800) * 0x400 + (low - 0xDC00)) :: ·)
    else none
  | .surrogate _ :: _ => none

/-- A string after its opening quote; `none` in place of a text when the pieces spell none. -/
def literal (cs : List Char) : Option (Option String × List Char) :=
  (pieces [] cs).map fun (read, rest) => ((spell? read).map String.ofList, rest)

/-! ## Numbers -/

/-- The number that a run of decimal digits denotes. -/
def natOfDigits (digits : List Char) : Nat :=
  digits.foldl (fun n c => n * 10 + (c.toNat - '0'.toNat)) 0

/-- A run of decimal digits, at least one. -/
def digits (cs : List Char) : Option (List Char × List Char) :=
  match cs.takeWhile Char.isDigit with
  | [] => none
  | run => some (run, cs.dropWhile Char.isDigit)

/-- The digits after a decimal point, if there is a point. -/
def fraction : List Char → Option (Option (List Char) × List Char)
  | '.' :: rest => (digits rest).map fun (run, rest) => (some run, rest)
  | rest => some (none, rest)

/-- The exponent, if there is one. -/
def exponent : List Char → Option (Option Int × List Char)
  | 'e' :: rest | 'E' :: rest =>
    match rest with
    | '+' :: rest => (digits rest).map fun (run, rest) => (some (natOfDigits run : Int), rest)
    | '-' :: rest => (digits rest).map fun (run, rest) => (some (-(natOfDigits run : Int)), rest)
    | rest => (digits rest).map fun (run, rest) => (some (natOfDigits run : Int), rest)
  | rest => some (none, rest)

/-- The value of digits before and behind a point, with an exponent. -/
def ofDigits (negative : Bool) (whole places : List Char) (power : Int) : Json :=
  match size? (Gathered.ofDigits whole places) power with
  | some size => .real ⟨negative, size⟩
  | none => .outOfRange

/-- The value of digits alone: an integer if it has at most 64 bits. -/
def ofWhole (negative : Bool) (whole : List Char) : Json :=
  let n := natOfDigits whole
  if negative ∧ 0 < n ∧ n ≤ UInt64.size / 2 then .integer (-n)
  else if !negative ∧ n < UInt64.size then .integer n
  else ofDigits negative whole [] 0

/-- A number without its sign. -/
def unsigned (negative : Bool) (cs : List Char) : Option (Json × List Char) := do
  let (whole, rest) ← digits cs
  if 1 < whole.length ∧ whole.head? = some '0' then none
  else
    let (places, rest) ← fraction rest
    let (power, rest) ← exponent rest
    match places, power with
    | none, none => some (ofWhole negative whole, rest)
    | _, _ => some (ofDigits negative whole (places.getD []) (power.getD 0), rest)

def number : List Char → Option (Json × List Char)
  | '-' :: rest => unsigned true rest
  | rest => unsigned false rest

/-! ## Values -/

/-- The value of a string literal. -/
def ofLiteral : Option String → Json
  | some text => .string text
  | none => .illFormed

/-- The value of an object whose keys are literals. -/
def ofMembers (members : List (Option String × Json)) : Json :=
  match members.mapM fun (key, value) => key.map (·, value) with
  | some members => .object members
  | none => .illFormed

mutual

/-- One value, behind any blanks. Each call uses up one unit of fuel. -/
def value : Nat → List Char → Option (Json × List Char)
  | 0, _ => none
  | fuel + 1, cs =>
    match skipBlanks cs with
    | 'n' :: 'u' :: 'l' :: 'l' :: rest => some (.null, rest)
    | 't' :: 'r' :: 'u' :: 'e' :: rest => some (.bool true, rest)
    | 'f' :: 'a' :: 'l' :: 's' :: 'e' :: rest => some (.bool false, rest)
    | '"' :: rest => (literal rest).map fun (text, rest) => (ofLiteral text, rest)
    | '[' :: rest =>
      match skipBlanks rest with
      | ']' :: rest => some (.array [], rest)
      | rest => (items fuel rest).map fun (read, rest) => (.array read, rest)
    | '\x7b' :: rest =>
      match skipBlanks rest with
      | '\x7d' :: rest => some (.object [], rest)
      | rest => (members fuel rest).map fun (read, rest) => (ofMembers read, rest)
    | rest => number rest

/-- The items of an array up to its closing bracket, at least one. -/
def items : Nat → List Char → Option (List Json × List Char)
  | 0, _ => none
  | fuel + 1, cs =>
    match value fuel cs with
    | none => none
    | some (item, rest) =>
      match skipBlanks rest with
      | ']' :: rest => some ([item], rest)
      | ',' :: rest => (items fuel rest).map fun (read, rest) => (item :: read, rest)
      | _ => none

/-- The members of an object up to its closing brace, at least one. -/
def members : Nat → List Char → Option (List (Option String × Json) × List Char)
  | 0, _ => none
  | fuel + 1, cs =>
    match skipBlanks cs with
    | '"' :: rest =>
      match literal rest with
      | none => none
      | some (key, rest) =>
        match skipBlanks rest with
        | ':' :: rest =>
          match value fuel rest with
          | none => none
          | some (item, rest) =>
            match skipBlanks rest with
            | '\x7d' :: rest => some ([(key, item)], rest)
            | ',' :: rest => (members fuel rest).map fun (read, rest) => ((key, item) :: read, rest)
            | _ => none
        | _ => none
    | _ => none

end

/-- The one value of a run of characters. Two units of fuel for each character are more than a
reading can use, since of two nested calls at least one consumes a character. -/
def readChars (cs : List Char) : Option Json :=
  match value (2 * cs.length + 2) cs with
  | some (read, rest) => if skipBlanks rest = [] then some read else none
  | none => none

/-- The value that a text spells. -/
def read (text : String) : Option Json :=
  readChars text.toList

end CodeBridge.Json

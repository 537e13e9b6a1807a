import CodeBridge.Text.HexDigit
import CodeBridge.Text.Runs

/-! # Tables of code points

The data of a character property or of a mapping between characters. A table is written as words
with blanks between them, in the order of the code points that they are about, with all numbers in
hexadecimal. A word names one code point (`AA`), code points in a row (`C0-D6`), or every second one
of a row (`101-131/2`). Behind a `>` stands what the table says about them: numbers with dots
between.

Tables are searched by halving.
-/

namespace CodeBridge.Unicode

/-- What a table says about some code points. -/
structure Entry where
  first : Nat
  last : Nat
  /-- How far the code points are apart. -/
  step : Nat
  targets : List Nat
  deriving DecidableEq, Repr, Inhabited

namespace Entry

def covers (entry : Entry) (code : Nat) : Bool :=
  entry.first ≤ code && code ≤ entry.last && (code - entry.first) % entry.step = 0

/-- The numbers of an entry for one of its code points, when they go up along with it. -/
def shifted (entry : Entry) (code : Nat) : List Nat :=
  entry.targets.map (· + (code - entry.first))

def natOfHex (digits : List Char) : Nat :=
  digits.foldl (fun n c => n * 16 + (Text.hexValue? c).getD 0) 0

/-- The entry of a word. -/
def ofWord (word : List Char) : Entry :=
  let codes := word.takeWhile (· ≠ '>')
  let targets := (word.dropWhile (· ≠ '>')).drop 1
  let row := codes.takeWhile (· ≠ '/')
  let first := natOfHex (row.takeWhile (· ≠ '-'))
  { first := first
    last := max first (natOfHex ((row.dropWhile (· ≠ '-')).drop 1))
    step := max 1 (natOfHex ((codes.dropWhile (· ≠ '/')).drop 1))
    targets := if targets.isEmpty then [] else (Text.runs (· == '.') targets).map natOfHex }

end Entry

/-- Entries in the order of their code points. -/
structure Table where
  entries : Array Entry
  deriving Inhabited

namespace Table

/-- The table of the words on some lines. -/
def ofLines (lines : List String) : Table :=
  ⟨(lines.flatMap fun line => (Text.runs (· == ' ') line.toList).map Entry.ofWord).toArray⟩

/-- Where, from `low` up to `high`, the entries begin that lie above a code point. -/
def upperBound (table : Table) (code low high : Nat) : Nat :=
  if low < high then
    let middle := (low + high) / 2
    match table.entries[middle]? with
    | some entry =>
      if entry.first ≤ code then table.upperBound code (middle + 1) high
      else table.upperBound code low middle
    | none => low
  else low
termination_by high - low

/-- The entry of a code point. -/
def find? (table : Table) (code : Nat) : Option Entry :=
  match table.upperBound code 0 table.entries.size with
  | 0 => none
  | next + 1 => table.entries[next]?.filter (·.covers code)

/-- Whether a table has a character. -/
def contains (table : Table) (c : Char) : Bool :=
  (table.find? c.toNat).isSome

end Table

end CodeBridge.Unicode

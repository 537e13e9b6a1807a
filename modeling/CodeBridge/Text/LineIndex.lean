import CodeBridge.Text.Span
import CodeBridge.Text.Units

/-! # Line index

The two coordinate systems of a document: an offset counts code units from the start of the text, a
position is a line and a column, the column in code units from the start of the line. A line ends
after its newline, so a carriage return before the newline belongs to the line that it ends.

Positions are 32-bit on the wire, so a line or column that does not fit is truncated.
-/

namespace CodeBridge

/-- A line and a column in it, both from zero. -/
structure Position where
  line : UInt32
  character : UInt32
  deriving DecidableEq, Repr, Inhabited

/-- The first position of a document. -/
def Position.origin : Position := ⟨0, 0⟩

/-- A span in line and column coordinates. -/
structure PositionRange where
  start : Position
  stop : Position
  deriving DecidableEq, Repr, Inhabited

/-- A position whose line lies beyond the end of its document. -/
structure OutOfRange where
  line : UInt32
  lineCount : Nat
  deriving DecidableEq, Repr

def OutOfRange.message (fault : OutOfRange) : String :=
  "line " ++ toString fault.line.toNat ++ " is outside the document (" ++
    toString fault.lineCount ++ " lines)"

/-- Where the lines of a document start, and how long the document is. -/
structure LineIndex where
  starts : List Nat
  length : Nat
  deriving DecidableEq, Repr

namespace LineIndex

open Text

/-- Offsets just after each newline, for a run of characters that begins at `offset`. -/
def startsAfter (offset : Nat) : List Char → List Nat
  | [] => []
  | c :: cs =>
    if c = '\n' then (offset + unitWidth c) :: startsAfter (offset + unitWidth c) cs
    else startsAfter (offset + unitWidth c) cs

/-- The index of a run of characters; its first line starts at zero. -/
def ofChars (cs : List Char) : LineIndex where
  starts := 0 :: startsAfter 0 cs
  length := units cs

/-- The index of a text. -/
def ofText (text : String) : LineIndex :=
  ofChars text.toList

/-- A text has one line more than it has newlines. -/
def lineCount (index : LineIndex) : Nat :=
  index.starts.length

def isEmpty (index : LineIndex) : Bool :=
  index.length == 0

/-- Offset of a position. A column past the end of the document stands for the end, and so does any
column of the line after the last one; a line beyond that is refused. -/
def offset (index : LineIndex) (position : Position) : Except OutOfRange Nat :=
  if known : position.line.toNat < index.starts.length then
    .ok (min (index.starts[position.line.toNat] + position.character.toNat) index.length)
  else if position.line.toNat = index.lineCount then .ok index.length
  else .error ⟨position.line, index.lineCount⟩

/-- Position of an offset: its line is the last one that starts at or before it. An offset past the
end stands for the end. -/
def position (index : LineIndex) (offset : Nat) : Position :=
  let offset := min offset index.length
  let before := index.starts.takeWhile (· ≤ offset)
  ⟨.ofNat (before.length - 1), .ofNat (offset - before.getLastD 0)⟩

/-- Position of an offset that may be unknown; an unknown offset is shown at the origin. -/
def positionOrOrigin (index : LineIndex) : Option Nat → Position
  | some offset => index.position offset
  | none => .origin

/-- Both ends of a span as positions. -/
def range (index : LineIndex) (span : Span) : PositionRange :=
  ⟨index.position span.start, index.position span.stop⟩

end LineIndex

end CodeBridge

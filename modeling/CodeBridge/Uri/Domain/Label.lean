import CodeBridge.Unicode.Composition
import CodeBridge.Unicode.Direction
import CodeBridge.Unicode.Joining
import CodeBridge.Unicode.Mark
import CodeBridge.Uri.Domain.Fold
import CodeBridge.Uri.Domain.Punycode

/-! # Labels of domain names

A label is what stands between two dots of a domain name. It is written in ASCII: a label with other
characters is written in Punycode behind `xn--`. Which characters may stand side by side depends on
how they join and on the direction in which they are written.
-/

namespace CodeBridge.Uri

/-- A label: what it says, and how it is written in ASCII. -/
structure Label where
  text : List Char
  written : List Char
  deriving DecidableEq, Repr

namespace Label

open Unicode (Direction)

def isAscii (c : Char) : Bool :=
  c.toNat < 0x80

/-! ## Joiners -/

/-- A letter that joins across what follows it, in a text that is newest first. -/
def reachesNext (before : List Char) : Bool :=
  (before.dropWhile Unicode.Joining.isTransparent).head?.any Unicode.Joining.joinsNext

/-- A letter that joins across what precedes it. -/
def reachesPrevious (after : List Char) : Bool :=
  (after.dropWhile Unicode.Joining.isTransparent).head?.any Unicode.Joining.joinsPrevious

/-- Joiners stand behind a mark that takes the vowel from a consonant; a non-joiner may also stand
between two letters that would join. `before` is newest first. -/
def joinersFit (before : List Char) : List Char → Bool
  | [] => true
  | c :: after =>
    (if c = '\u200d' then before.head?.any Unicode.isVirama
      else if c = '\u200c' then
        before.head?.any Unicode.isVirama || (reachesNext before && reachesPrevious after)
      else true) && joinersFit (c :: before) after

/-! ## Directions -/

/-- Whether characters may stand in a text of a direction. -/
def runsLeftToRight : Direction → Bool
  | .leftToRight | .europeanNumber | .mark | .neutral => true
  | .rightToLeft | .arabicNumber => false

def runsRightToLeft : Direction → Bool
  | .rightToLeft | .arabicNumber | .europeanNumber | .mark | .neutral => true
  | .leftToRight => false

/-- The direction of the last character that is no mark. -/
def lastDirection? (directions : List Direction) : Option Direction :=
  directions.reverse.find? (· ≠ .mark)

/-- Whether a label keeps to one direction: that of its first character, with a letter or a number
at its end, and with the digits of one kind only if it runs from right to left. -/
def keepsDirection (text : List Char) : Bool :=
  let directions := text.map Direction.of
  match directions with
  | [] => true
  | .leftToRight :: _ =>
    directions.all runsLeftToRight &&
      [some .leftToRight, some .europeanNumber].contains (lastDirection? directions)
  | .rightToLeft :: _ =>
    directions.all runsRightToLeft &&
      [some .rightToLeft, some .europeanNumber, some .arabicNumber].contains
        (lastDirection? directions) &&
      !(directions.contains .europeanNumber && directions.contains .arabicNumber)
  | _ => false

/-- Whether a text asks for the rules of direction. -/
def hasRightToLeft (text : List Char) : Bool :=
  text.any fun c => Direction.of c = .rightToLeft || Direction.of c = .arabicNumber

/-! ## Forms -/

/-- Longest text of a label beyond ASCII. -/
def maxText : Nat := 1000

/-- Longest Punycode of a label. -/
def maxPunycode : Nat := 2000

/-- Whether a text beyond ASCII is a label. -/
def isValid (text : List Char) : Bool :=
  text.length ≤ maxText && !(text.head?.any Unicode.isMark) && joinersFit [] text

/-- What stands before Punycode. -/
def punycodeMark : List Char := ['x', 'n', '-', '-']

/-- The label of a Punycode form. Its text must need that form, and must be as it would be after
folding and composition. -/
def ofPunycode? (written : List Char) : Option Label := do
  if !written.all isAscii || maxPunycode < written.length then none
  else
    let text ← Punycode.decode? written
    if !text.all isAscii && text.all (fun c => Fold.kept.contains c) &&
        Unicode.composed text = text && isValid text then
      some ⟨text, punycodeMark ++ written⟩
    else none

/-- The label of a text that is folded and composed. -/
def of? (text : List Char) : Option Label :=
  if punycodeMark.isPrefixOf text then ofPunycode? (text.drop punycodeMark.length)
  else if text.all isAscii then some ⟨text, text⟩
  else if isValid text then some ⟨text, punycodeMark ++ Punycode.encode text⟩
  else none

end Label

end CodeBridge.Uri

import CodeBridge.Text.Runs
import CodeBridge.Uri.Percent

/-! # Paths

A path is cut at its slashes, and its `.` and `..` segments are resolved from left to right. A
drive (a letter with a colon or a bar) is never left again by `..`. As the first segment of a
`file` path a drive is written with a colon, and stands for a place on this very machine, whatever
the host.

Tabs and line breaks count for nothing in a URI, with one exception: right behind the drive of a
`file` path one of them ends the segment, and what follows is taken as it is.
-/

namespace CodeBridge.Uri

/-- Whether a character divides path segments. -/
def isSlash (special : Bool) (c : Char) : Bool :=
  c == '/' || (special && c == '\\')

/-! ## Breaks -/

/-- Tabs and line breaks. -/
def isBreak (c : Char) : Bool :=
  ['\t', '\n', '\r'].contains c

/-- The text without breaks. -/
def withoutBreaks (cs : List Char) : List Char :=
  cs.filter fun c => !isBreak c

/-- Whether a text, newest character first, ends in a segment that is a letter and a colon so far.
-/
def endsInDrive : List Char → Bool
  | [':', letter] => letter.isAlpha
  | ':' :: letter :: slash :: _ => letter.isAlpha && isSlash true slash
  | _ => false

/-- A text without breaks, but with a tab in place of those behind a drive. `read` is what stands
before it, newest character first. -/
def keepDriveBreaks (read : List Char) : List Char → List Char
  | [] => read.reverse
  | c :: rest =>
    if !isBreak c then keepDriveBreaks (c :: read) rest
    else if endsInDrive read then keepDriveBreaks ('\t' :: read) rest
    else keepDriveBreaks read rest

/-! ## Segments -/

/-- A segment with its encoded dots read as dots. -/
def plainDots : List Char → List Char
  | '%' :: '2' :: 'e' :: rest | '%' :: '2' :: 'E' :: rest => '.' :: plainDots rest
  | c :: rest => c :: plainDots rest
  | [] => []

def isHere (segment : List Char) : Bool :=
  plainDots segment == ['.']

def isUp (segment : List Char) : Bool :=
  plainDots segment == ['.', '.']

/-- A letter and a colon, or a letter and a bar. -/
def isDrive : List Char → Bool
  | [letter, mark] => letter.isAlpha && (mark == ':' || mark == '|')
  | _ => false

/-- A drive at the front of a segment, with nothing or a backslash behind it. -/
def startsWithDrive (segment : List Char) : Bool :=
  isDrive (segment.take 2) && ((segment.drop 2).isEmpty || (segment.drop 2).head? == some '\\')

/-! ## Resolution -/

/-- The way from the root to where a path has led so far. -/
structure Trail where
  /-- Segments, newest first. -/
  segments : List (List Char) := []
  /-- A drive of a `file` path was entered at the root. -/
  onDrive : Bool := false
  deriving DecidableEq, Repr

namespace Trail

/-- One step up, never above the root nor off a drive. -/
def up (trail : Trail) : Trail :=
  match trail.segments with
  | [] => trail
  | last :: rest => if startsWithDrive last then trail else { trail with segments := rest }

/-- One step down. -/
def down (segment : List Char) (trail : Trail) : Trail :=
  { trail with segments := withoutBreaks segment :: trail.segments }

/-- The first step down of a `file` path. -/
def enter (segment : List Char) (trail : Trail) : Trail :=
  let drive := segment.take 2
  match segment.drop 2 with
  | '\t' :: c :: rest => (trail.down drive).down (c :: rest)
  | _ =>
    if isDrive (withoutBreaks segment) then ⟨[segment.take 1 ++ [':']], true⟩
    else trail.down segment

/-- One step along a segment. -/
def go (file : Bool) (segment : List Char) (trail : Trail) : Trail :=
  if file && trail.segments.isEmpty then trail.enter segment else trail.down segment

/-- The trail of a list of segments. A dot segment at the end leaves an empty segment, so that the
path still ends in a slash. -/
def walk (file : Bool) (trail : Trail) : List (List Char) → Trail
  | [] => trail
  | [last] =>
    if isUp last then trail.up.down []
    else if isHere last then trail.down []
    else trail.go file last
  | segment :: rest =>
    if isUp segment then walk file trail.up rest
    else if isHere segment then walk file trail rest
    else walk file (trail.go file segment) rest

end Trail

/-- The trail of a path without its first slash. -/
def resolve (file special : Bool) (path : List Char) : Trail :=
  Trail.walk file {} (Text.runs (isSlash special) path)

/-- Segments as text, each behind a slash. -/
def renderPath (segments : List (List Char)) : List Char :=
  segments.flatMap fun segment => '/' :: percentEncode encodedInPath segment

/-- A trail as text, from the root on. -/
def Trail.render (trail : Trail) : List Char :=
  renderPath trail.segments.reverse

/-- The trail of a `file` path as text, without empty segments at its front. -/
def Trail.renderFile (trail : Trail) : List Char :=
  match trail.segments.reverse.dropWhile List.isEmpty with
  | [] => ['/']
  | segments => renderPath segments

end CodeBridge.Uri

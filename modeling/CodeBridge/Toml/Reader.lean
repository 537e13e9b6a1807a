import CodeBridge.Toml.Document
import CodeBridge.Toml.Scalar

/-! # Reading TOML

The text form of TOML 1.0, line by line. Every function takes the characters that are left and
returns what it read with the characters after it; where it calls itself on a rest that it has
computed, it is given fuel, and three units for each character of the text are enough. A key has
fewer than 80 parts, and fewer than 80 arrays and inline tables lie inside each other.
-/

namespace CodeBridge.Toml

def isSpace (c : Char) : Bool :=
  c == ' ' || c == '\t'

def skipSpaces (cs : List Char) : List Char :=
  cs.dropWhile isSpace

/-- What follows a line break. -/
def newline? : List Char → Option (List Char)
  | '\n' :: rest => some rest
  | '\r' :: '\n' :: rest => some rest
  | _ => none

/-- Characters that may stand in a line: all but control characters, the tab excepted. -/
def isLineChar (c : Char) : Bool :=
  c == '\t' || (0x20 ≤ c.toNat && c.toNat ≠ 0x7F)

def skipComment : List Char → List Char
  | '#' :: rest => rest.dropWhile isLineChar
  | cs => cs

/-- What follows the end of a line, behind blanks and a comment. -/
def lineEnd? (cs : List Char) : Option (List Char) :=
  match skipComment (skipSpaces cs) with
  | [] => some []
  | rest => newline? rest

/-- What follows any blanks, comments and line breaks. -/
def skipLines : Nat → List Char → List Char
  | 0, cs => cs
  | fuel + 1, cs =>
    let cs := skipComment (skipSpaces cs)
    match newline? cs with
    | some rest => skipLines fuel rest
    | none => cs

/-! ## Strings -/

/-- The character of a number of hexadecimal digits. -/
def hexChar? (count : Nat) (cs : List Char) : Option (Char × List Char) :=
  let digits := cs.take count
  match natOfDigits? 16 digits with
  | some n =>
    if digits.length = count ∧ n.isValidChar then some (.ofNat n, cs.drop count) else none
  | none => none

/-- The character of an escape, after its backslash. -/
def escape? : List Char → Option (Char × List Char)
  | 'b' :: rest => some ('\x08', rest)
  | 't' :: rest => some ('\t', rest)
  | 'n' :: rest => some ('\n', rest)
  | 'f' :: rest => some ('\x0c', rest)
  | 'r' :: rest => some ('\r', rest)
  | '"' :: rest => some ('"', rest)
  | '\\' :: rest => some ('\\', rest)
  | 'u' :: rest => hexChar? 4 rest
  | 'U' :: rest => hexChar? 8 rest
  | _ => none

/-- Puts characters before what is read next. -/
def behind (cs : List Char) (read : Option (List Char × List Char)) :
    Option (List Char × List Char) :=
  read.map fun (text, rest) => (cs ++ text, rest)

/-- A string in double quotes, after the opening quote. -/
def basic : Nat → List Char → Option (List Char × List Char)
  | 0, _ => none
  | fuel + 1, cs =>
    match cs with
    | '"' :: rest => some ([], rest)
    | '\\' :: rest =>
      match escape? rest with
      | some (c, rest) => behind [c] (basic fuel rest)
      | none => none
    | c :: rest => if isLineChar c then behind [c] (basic fuel rest) else none
    | [] => none

/-- A string in single quotes, after the opening quote. -/
def literal : List Char → Option (List Char × List Char)
  | '\'' :: rest => some ([], rest)
  | c :: rest => if isLineChar c then behind [c] (literal rest) else none
  | [] => none

/-- What follows a backslash at the end of a line: the text goes on with the next character that is
neither blank nor a line break. -/
def lineContinuation? (fuel : Nat) (cs : List Char) : Option (List Char) :=
  let rec skip : Nat → List Char → List Char
    | 0, cs => cs
    | fuel + 1, cs =>
      match newline? (skipSpaces cs) with
      | some rest => skip fuel rest
      | none => skipSpaces cs
  (newline? (skipSpaces cs)).map (skip fuel)

/-- The end of a string over several lines. Three marks close it; one or two more before them belong
to the text. -/
def closing? (mark : Char) (cs : List Char) : Option (List Char × List Char) :=
  let count := min (cs.takeWhile (· = mark)).length 5
  if 3 ≤ count then some (List.replicate (count - 3) mark, cs.drop count) else none

/-- A string in three double quotes, after the opening ones. -/
def multiBasic : Nat → List Char → Option (List Char × List Char)
  | 0, _ => none
  | fuel + 1, cs =>
    match closing? '"' cs with
    | some closed => some closed
    | none =>
      match newline? cs with
      | some rest => behind ['\n'] (multiBasic fuel rest)
      | none =>
        match cs with
        | '\\' :: rest =>
          match escape? rest with
          | some (c, rest) => behind [c] (multiBasic fuel rest)
          | none =>
            match lineContinuation? fuel rest with
            | some rest => multiBasic fuel rest
            | none => none
        | c :: rest => if isLineChar c then behind [c] (multiBasic fuel rest) else none
        | [] => none

/-- A string in three single quotes, after the opening ones. -/
def multiLiteral : Nat → List Char → Option (List Char × List Char)
  | 0, _ => none
  | fuel + 1, cs =>
    match closing? '\'' cs with
    | some closed => some closed
    | none =>
      match newline? cs with
      | some rest => behind ['\n'] (multiLiteral fuel rest)
      | none =>
        match cs with
        | c :: rest => if isLineChar c then behind [c] (multiLiteral fuel rest) else none
        | [] => none

/-- A line break right behind the opening quotes is not part of the text. -/
def skipFirstNewline (cs : List Char) : List Char :=
  (newline? cs).getD cs

/-- A string in any of its four forms. -/
def string? (fuel : Nat) : List Char → Option (String × List Char)
  | '"' :: '"' :: '"' :: rest =>
    (multiBasic fuel (skipFirstNewline rest)).map fun (text, rest) => (.ofList text, rest)
  | '\'' :: '\'' :: '\'' :: rest =>
    (multiLiteral fuel (skipFirstNewline rest)).map fun (text, rest) => (.ofList text, rest)
  | '"' :: rest => (basic fuel rest).map fun (text, rest) => (.ofList text, rest)
  | '\'' :: rest => (literal rest).map fun (text, rest) => (.ofList text, rest)
  | _ => none

/-! ## Keys -/

def isKeyChar (c : Char) : Bool :=
  c.isAlphanum || c == '-' || c == '_'

/-- One part of a key: bare, or a string on one line. -/
def keyPart? (fuel : Nat) : List Char → Option (String × List Char)
  | '"' :: rest => (basic fuel rest).map fun (text, rest) => (.ofList text, rest)
  | '\'' :: rest => (literal rest).map fun (text, rest) => (.ofList text, rest)
  | cs =>
    match cs.takeWhile isKeyChar with
    | [] => none
    | name => some (.ofList name, cs.dropWhile isKeyChar)

/-- Bound on the parts of a key, and on the arrays and inline tables around a value. -/
def maxDepth : Nat := 80

/-- Parts of a key with dots between them. -/
def keyParts? : Nat → List Char → Option (List String × List Char)
  | 0, _ => none
  | fuel + 1, cs => do
    let (part, rest) ← keyPart? fuel cs
    match skipSpaces rest with
    | '.' :: rest => do
      let (parts, rest) ← keyParts? fuel (skipSpaces rest)
      some (part :: parts, rest)
    | rest => some ([part], rest)

/-- A key, with or without dots. -/
def key? (fuel : Nat) (cs : List Char) : Option (List String × List Char) := do
  let (parts, rest) ← keyParts? fuel cs
  if parts.length < maxDepth then some (parts, rest) else none

/-- A key with the equals sign behind it. -/
def assignee? (fuel : Nat) (cs : List Char) : Option (List String × List Char) := do
  let (path, rest) ← key? fuel cs
  match rest with
  | '=' :: rest => some (path, skipSpaces rest)
  | _ => none

/-! ## Values -/

mutual

/-- A value inside a number of arrays and inline tables. -/
def value? (depth : Nat) : Nat → List Char → Option (Value × List Char)
  | 0, _ => none
  | fuel + 1, cs =>
    match cs with
    | '[' :: rest => (items? (depth + 1) fuel rest).map fun (items, rest) => (.array items, rest)
    | '\x7b' :: rest => (table? (depth + 1) fuel rest).map fun (table, rest) => (.table table, rest)
    | 't' :: 'r' :: 'u' :: 'e' :: rest => some (.boolean true, rest)
    | 'f' :: 'a' :: 'l' :: 's' :: 'e' :: rest => some (.boolean false, rest)
    | cs =>
      match string? fuel cs with
      | some (text, rest) => some (.string text, rest)
      | none => (scalar? cs).map (.scalar, ·)

/-- The items of an array up to its closing bracket; they may be spread over lines. -/
def items? (depth : Nat) : Nat → List Char → Option (List Value × List Char)
  | 0, _ => none
  | fuel + 1, cs =>
    if maxDepth ≤ depth then none
    else
      match skipLines fuel cs with
      | ']' :: rest => some ([], rest)
      | cs =>
        match value? depth fuel cs with
        | none => none
        | some (item, rest) =>
          match skipLines fuel rest with
          | ']' :: rest => some ([item], rest)
          | ',' :: rest => (items? depth fuel rest).map fun (items, rest) => (item :: items, rest)
          | _ => none

/-- The entries of an inline table up to its closing brace. -/
def table? (depth : Nat) : Nat → List Char → Option (List (String × Value) × List Char)
  | 0, _ => none
  | fuel + 1, cs =>
    if maxDepth ≤ depth then none
    else
      match skipSpaces cs with
      | '\x7d' :: rest => some ([], rest)
      | cs =>
        match pairs? depth fuel cs with
        | some (pairs, rest) => (tableOf? pairs).map (·, rest)
        | none => none

/-- The pairs of an inline table up to its closing brace, at least one. -/
def pairs? (depth : Nat) : Nat → List Char → Option (List (List String × Value) × List Char)
  | 0, _ => none
  | fuel + 1, cs =>
    match assignee? fuel (skipSpaces cs) with
    | none => none
    | some (path, rest) =>
      match value? depth fuel rest with
      | none => none
      | some (item, rest) =>
        match skipSpaces rest with
        | '\x7d' :: rest => some ([(path, item)], rest)
        | ',' :: rest =>
          (pairs? depth fuel rest).map fun (pairs, rest) => ((path, item) :: pairs, rest)
        | _ => none

end

/-! ## Lines -/

/-- What stands between the brackets of a table header. -/
def header? (fuel : Nat) (cs : List Char) : Option (List String × List Char) :=
  key? fuel (skipSpaces cs)

/-- A line that says something. -/
def statement? (fuel : Nat) : List Char → Option (Statement × List Char)
  | '[' :: '[' :: rest => do
    let (path, rest) ← header? fuel rest
    match rest with
    | ']' :: ']' :: rest => some (.openItem path, rest)
    | _ => none
  | '[' :: rest => do
    let (path, rest) ← header? fuel rest
    match rest with
    | ']' :: rest => some (.openTable path, rest)
    | _ => none
  | cs => do
    let (path, rest) ← assignee? fuel cs
    let (value, rest) ← value? 0 fuel rest
    some (.assign path value, rest)

/-- The statements of the lines of a text. -/
def statements? : Nat → List Char → Option (List Statement)
  | 0, _ => none
  | fuel + 1, cs =>
    match skipSpaces cs with
    | [] => some []
    | cs =>
      match lineEnd? cs with
      | some rest => statements? fuel rest
      | none => do
        let (statement, rest) ← statement? fuel cs
        let rest ← lineEnd? rest
        let statements ← statements? fuel rest
        some (statement :: statements)

/-- A byte order mark at the front is no part of a text. -/
def skipByteOrderMark : List Char → List Char
  | '\uFEFF' :: rest => rest
  | cs => cs

/-- The top table of the document that a text spells. -/
def read (text : String) : Option (List (String × Value)) := do
  let cs := skipByteOrderMark text.toList
  let statements ← statements? (3 * cs.length + 3) cs
  documentOf? statements

end CodeBridge.Toml

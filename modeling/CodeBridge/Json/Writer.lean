import CodeBridge.Json.Number
import CodeBridge.Json.Value
import CodeBridge.Text.HexDigit

/-! # Writing JSON

The compact form: no blanks, members in the order of the value, characters as themselves except the
quote, the backslash and the control characters below U+0020.
-/

namespace CodeBridge.Json

/-- A character as it stands between the quotes of a string. -/
def escape (c : Char) : List Char :=
  if c = '"' then ['\\', '"']
  else if c = '\\' then ['\\', '\\']
  else if c = '\n' then ['\\', 'n']
  else if c = '\r' then ['\\', 'r']
  else if c = '\t' then ['\\', 't']
  else if c = '\x08' then ['\\', 'b']
  else if c = '\x0c' then ['\\', 'f']
  else if c.toNat < 0x20 then
    ['\\', 'u', '0', '0', Text.lowerHexDigit (c.toNat / 16), Text.lowerHexDigit (c.toNat % 16)]
  else [c]

/-- A text between quotes. -/
def quoted (text : String) : List Char :=
  '"' :: (text.toList.flatMap escape ++ ['"'])

/-- An integer in plain decimal. -/
def decimal : Int → List Char
  | .ofNat n => Nat.toDigits 10 n
  | .negSucc n => '-' :: Nat.toDigits 10 (n + 1)

mutual

/-- The characters of a value. -/
def chars : Json → List Char
  | .null => ['n', 'u', 'l', 'l']
  | .bool true => ['t', 'r', 'u', 'e']
  | .bool false => ['f', 'a', 'l', 's', 'e']
  | .integer value => decimal value
  | .real value => charsOfReal value
  | .outOfRange => ['1', 'e', '9', '9', '9']
  | .string text => quoted text
  | .array [] => ['[', ']']
  | .array (item :: items) => '[' :: (item.chars ++ charsOfItems items)
  | .object [] => ['\x7b', '\x7d']
  | .object ((key, value) :: members) =>
    '\x7b' :: (quoted key ++ ':' :: (value.chars ++ charsOfMembers members))
  | .illFormed => ['"', '\\', 'u', 'd', '8', '0', '0', '"']

/-- The items after the first one, and the closing bracket. -/
def charsOfItems : List Json → List Char
  | [] => [']']
  | item :: items => ',' :: (item.chars ++ charsOfItems items)

/-- The members after the first one, and the closing brace. -/
def charsOfMembers : List (String × Json) → List Char
  | [] => ['\x7d']
  | (key, value) :: members =>
    ',' :: (quoted key ++ ':' :: (value.chars ++ charsOfMembers members))

end

/-- A value as text. -/
def write (value : Json) : String :=
  String.ofList value.chars

end CodeBridge.Json

import CodeBridge.Text.HexDigit

/-! # Percent-encoding

Each part of a URI admits its own characters; any other character is written as its UTF-8 bytes,
each byte as a percent sign and two upper-case hexadecimal digits. A percent sign that is already
there is left alone, so text that was encoded once is not encoded again, and decoding takes a
percent sign without two digits behind it for itself.
-/

namespace CodeBridge.Uri

/-- A byte as a percent sign and two digits. -/
def percentByte (byte : UInt8) : List Char :=
  ['%', Text.upperHexDigit (byte.toNat / 16), Text.upperHexDigit (byte.toNat % 16)]

/-- Control characters and everything beyond ASCII. -/
def isControl (c : Char) : Bool :=
  c.toNat < 0x20 || 0x7E < c.toNat

def encodedInFragment (c : Char) : Bool :=
  isControl c || [' ', '"', '<', '>', '\x60'].contains c

def encodedInPath (c : Char) : Bool :=
  encodedInFragment c || ['#', '?', '\x7b', '\x7d'].contains c

def encodedInUserInfo (c : Char) : Bool :=
  encodedInPath c || ['/', ':', ';', '=', '@', '[', '\\', ']', '^', '|'].contains c

def encodedInQuery (c : Char) : Bool :=
  isControl c || [' ', '"', '#', '<', '>'].contains c

def encodedInSpecialQuery (c : Char) : Bool :=
  encodedInQuery c || c == '\''

/-- A run of characters in which every character that satisfies `encoded` is written as bytes. -/
def percentEncode (encoded : Char → Bool) (cs : List Char) : List Char :=
  cs.flatMap fun c => if encoded c then (String.utf8EncodeChar c).flatMap percentByte else [c]

/-- The bytes of a text in which percent signs with two digits behind them stand for bytes. -/
def percentDecode : List Char → List UInt8
  | '%' :: a :: b :: rest =>
    match Text.hexValue? a, Text.hexValue? b with
    | some a, some b => .ofNat (a * 16 + b) :: percentDecode rest
    | _, _ => String.utf8EncodeChar '%' ++ percentDecode (a :: b :: rest)
  | c :: rest => String.utf8EncodeChar c ++ percentDecode rest
  | [] => []

end CodeBridge.Uri

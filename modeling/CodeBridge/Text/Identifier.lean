import CodeBridge.Text.Alphanumeric
import CodeBridge.Text.Units

/-! # Identifiers before the cursor

Completion narrows its proposals by the identifier that the user has typed so far: the run of
identifier characters that ends at the cursor.
-/

namespace CodeBridge.Text

/-- Letters, numbers and the underscore make up identifiers. -/
def isIdentifierChar (c : Char) : Bool :=
  isAlphanumeric c || c == '_'

/-- The shortest run of whole characters from the front that covers `offset` code units; an offset
inside a surrogate pair takes the whole character. -/
def takeUnits (offset : Nat) : List Char → List Char
  | [] => []
  | c :: cs => if offset = 0 then [] else c :: takeUnits (offset - unitWidth c) cs

/-- The longest run of identifier characters at the end. -/
def identifierSuffix (cs : List Char) : List Char :=
  (cs.reverse.takeWhile isIdentifierChar).reverse

/-- The part of an identifier that stands before an offset of a text. -/
def identifierBefore (text : String) (offset : Nat) : List Char :=
  identifierSuffix (takeUnits offset text.toList)

end CodeBridge.Text

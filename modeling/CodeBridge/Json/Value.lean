import CodeBridge.Numeric.Binary64

/-! # JSON values

What a JSON text says, as far as anything here can tell apart. Members of an object keep their order
and their repetitions. Of a number that is too large for a double only that is kept, and of a string
whose escapes leave a surrogate unpaired only that it spells no text: no schema takes either, but a
field that is skipped may hold them.
-/

namespace CodeBridge

/-- A JSON value. -/
inductive Json where
  | null
  | bool (value : Bool)
  /-- A number of at most 64 bits written without fraction and exponent, minus zero excepted. -/
  | integer (value : Int)
  /-- Any other number. -/
  | real (value : Numeric.Binary64)
  /-- A number that is too large for a double. -/
  | outOfRange
  | string (text : String)
  | array (items : List Json)
  | object (members : List (String × Json))
  /-- A string, or an object with a key, in which an escape leaves a surrogate unpaired. -/
  | illFormed
  deriving Inhabited, Repr

namespace Json

/-- A non-negative integer as a value. -/
def nat (n : Nat) : Json := .integer n

/-- `null` for an absent value. -/
def orNull (encode : α → Json) : Option α → Json
  | some a => encode a
  | none => .null

/-- An array of encoded items. -/
def list (encode : α → Json) (items : List α) : Json :=
  .array (items.map encode)

mutual

/-- Number of arrays and objects on the longest way into a value, itself included. -/
def depth : Json → Nat
  | .array items => depthOfItems items + 1
  | .object members => depthOfMembers members + 1
  | _ => 0

def depthOfItems : List Json → Nat
  | [] => 0
  | item :: items => max item.depth (depthOfItems items)

def depthOfMembers : List (String × Json) → Nat
  | [] => 0
  | (_, value) :: members => max value.depth (depthOfMembers members)

end

mutual

/-- Whether every number in a value has the size of a double and every string spells a text. -/
def isPlain : Json → Bool
  | .outOfRange | .illFormed => false
  | .array items => areItemsPlain items
  | .object members => areMembersPlain members
  | .null | .bool _ | .integer _ | .real _ | .string _ => true

def areItemsPlain : List Json → Bool
  | [] => true
  | item :: items => item.isPlain && areItemsPlain items

def areMembersPlain : List (String × Json) → Bool
  | [] => true
  | (_, value) :: members => value.isPlain && areMembersPlain members

end

/-- First member of an object with a key. -/
def member? (key : String) : Json → Option Json
  | .object members => members.lookup key
  | _ => none

end Json

end CodeBridge

import CodeBridge.Json.Value

/-! # Records in JSON

A record with named fields is written as an object, or as an array of its fields in order. In an
object a field may not occur twice, and keys that name no field are skipped unless the record is
closed. An array may stop early, which leaves its last fields out, but may not be too long.
-/

namespace CodeBridge.Json

/-- The fields of a record that are present. -/
structure Record where
  /-- Written as an array: a field that is left out has no name to be missed by. -/
  positional : Bool
  fields : List (String × Json)
  deriving Repr

namespace Record

/-- The record of an object. -/
def ofMembers? (names : List String) (closed : Bool) (members : List (String × Json)) :
    Option Record :=
  let known := members.filter fun (key, _) => names.contains key
  if (known.map Prod.fst).Nodup ∧ (closed → known.length = members.length) then some ⟨false, known⟩
  else none

/-- The record of an array. -/
def ofItems? (names : List String) (items : List Json) : Option Record :=
  if items.length ≤ names.length then some ⟨true, names.zip items⟩ else none

/-- The record that a value writes. -/
def of? (names : List String) (closed : Bool) : Json → Option Record
  | .object members => ofMembers? names closed members
  | .array items => ofItems? names items
  | _ => none

def find? (record : Record) (name : String) : Option Json :=
  record.fields.lookup name

/-- A field that must be present. -/
def required (record : Record) (name : String) (decode : Json → Option α) : Option α :=
  (record.find? name).bind decode

/-- A field that may be left out, and is `default` then. -/
def withDefault (record : Record) (name : String) (decode : Json → Option α) (default : α) :
    Option α :=
  match record.find? name with
  | some value => decode value
  | none => some default

end Record

/-- A value, or `null` for its absence. -/
def nullable? (decode : Json → Option α) : Json → Option (Option α)
  | .null => some none
  | value => (decode value).map some

namespace Record

/-- A field that may be `null` or, in an object, left out. -/
def nullable (record : Record) (name : String) (decode : Json → Option α) : Option (Option α) :=
  if record.positional then record.required name (nullable? decode)
  else record.withDefault name (nullable? decode) none

/-- A field that may be `null` or left out. -/
def optional (record : Record) (name : String) (decode : Json → Option α) : Option (Option α) :=
  record.withDefault name (nullable? decode) none

end Record

/-! ## Values of single fields -/

def text? : Json → Option String
  | .string text => some text
  | _ => none

def bool? : Json → Option Bool
  | .bool value => some value
  | _ => none

/-- A non-negative integer below a bound. -/
def natBelow? (bound : Nat) : Json → Option Nat
  | .integer (.ofNat n) => if n < bound then some n else none
  | _ => none

/-- An offset: a 64-bit number. -/
def offset? : Json → Option Nat :=
  natBelow? UInt64.size

def uint32? (value : Json) : Option UInt32 :=
  (natBelow? UInt32.size value).map .ofNat

def list? (decode : Json → Option α) : Json → Option (List α)
  | .array items => items.mapM decode
  | _ => none

/-- A choice among names: the name itself, or an object with the name as its only key over `null`.
-/
def choice? (decode : String → Option α) : Json → Option α
  | .string name => decode name
  | .object [(name, .null)] => decode name
  | _ => none

end CodeBridge.Json

import CodeBridge.Json.Sorted
import CodeBridge.Json.Writer
import CodeBridge.Uri.Parse

/-! # Shapes of parameters

What the parameters of a request have to look like, and what a client is told if they do not: the
first thing that is wrong. The members of an object are looked at in the order of their keys, and
what is missing comes after all of them, in the order of the fields.
-/

namespace CodeBridge

/-- What a value has to look like. -/
inductive Shape where
  | any
  | text
  | bool
  | uint32
  | int32
  | float
  | uri
  | list (item : Shape)
  /-- A value that may be `null` or, as a field, left out. -/
  | optional (shape : Shape)
  /-- A value that may be left out as a field. -/
  | defaulted (shape : Shape)
  /-- One of several shapes, the first that fits. -/
  | oneOf (name : String) (shapes : List Shape)
  /-- An object with these fields, or an array of their values. -/
  | record (name : String) (fields : List (String × Shape))
  /-- An object with fields of its own and the fields of some parts, which are looked at in turn. -/
  | joined (name : String) (fields : List (String × Shape)) (parts : List (List (String × Shape)))

namespace Shape

/-! ## Messages -/

/-- A character as messages quote it. -/
def quoteChar (c : Char) : List Char :=
  match c with
  | '"' => ['\\', '"']
  | '\\' => ['\\', '\\']
  | '\n' => ['\\', 'n']
  | '\r' => ['\\', 'r']
  | '\t' => ['\\', 't']
  | '\x00' => ['\\', '0']
  | c =>
    if c.toNat < 0x20 ∨ c.toNat = 0x7F then
      ['\\', 'u', '\x7b'] ++ Nat.toDigits 16 c.toNat ++ ['\x7d']
    else [c]

def quote (text : String) : String :=
  String.ofList ('"' :: (text.toList.flatMap quoteChar ++ ['"']))

/-- A name as messages mark it. -/
def marked (name : String) : String :=
  "\x60" ++ name ++ "\x60"

/-- What a value is, as messages call it. -/
def describe : Json → String
  | .null => "null"
  | .bool value => "boolean " ++ marked (if value then "true" else "false")
  | .integer value => "integer " ++ marked (Json.integer value).write
  | .real value => "floating point " ++ marked (Json.real value).write
  | .string content => "string " ++ quote content
  | .array _ => "sequence"
  | .object _ => "map"
  | .outOfRange | .illFormed => "value"

def wrongType (value : Json) (expected : String) : String :=
  "invalid type: " ++ describe value ++ ", expected " ++ expected

def wrongValue (value : Json) (expected : String) : String :=
  "invalid value: " ++ describe value ++ ", expected " ++ expected

def wrongLength (length : Nat) (expected : String) : String :=
  "invalid length " ++ toString length ++ ", expected " ++ expected

def missing (field : String) : String :=
  "missing field " ++ marked field

def noVariant (name : String) : String :=
  "data did not match any variant of untagged enum " ++ name

/-- A number of elements. -/
def elements (count : Nat) : String :=
  if count = 1 then "1 element" else toString count ++ " elements"

/-! ## Faults -/

/-- The fault of a value that has to be an integer from `low` to below `bound`. -/
def integerFault? (name : String) (low bound : Int) : Json → Option String
  | .integer value =>
    if low ≤ value ∧ value < bound then none else some (wrongValue (.integer value) name)
  | value => some (wrongType value name)

/-- The fault of a value that has to be a URI. -/
def uriFault? : Json → Option String
  | .string content =>
    match Uri.parse content with
    | .ok _ => none
    | .error error => some (wrongValue (.string content) error.message)
  | value => some (wrongType value "a string representing an URL")

/-- Whether a field may be left out. -/
def isOptional : Shape → Bool
  | .optional _ | .defaulted _ => true
  | _ => false

/-- The first field that is missing. -/
def missing? (fields : List (String × Shape)) (members : List (String × Json)) : Option String :=
  (fields.find? fun (name, shape) => !shape.isOptional && (members.lookup name).isNone).map
    fun (name, _) => missing name

/-- The fault of the member that comes first in the order of the keys. -/
def firstFault? : List (String × String) → Option String
  | [] => none
  | fault :: faults =>
    some (faults.foldl (fun first other => if other.1 < first.1 then other else first) fault).2

mutual

/-- What is wrong with a value. Inside the parts of an object values are `buffered`, which tells in
the message about an array that is too long. -/
def fault? (buffered : Bool) : Shape → Json → Option String
  | .any, _ => none
  | .text, .string _ => none
  | .text, value => some (wrongType value "a string")
  | .bool, .bool _ => none
  | .bool, value => some (wrongType value "a boolean")
  | .uint32, value => integerFault? "u32" 0 UInt32.size value
  | .int32, value => integerFault? "i32" (-0x80000000) 0x80000000 value
  | .float, .integer _ | .float, .real _ => none
  | .float, value => some (wrongType value "f32")
  | .uri, value => uriFault? value
  | .list item, .array items => items.findSome? (item.fault? buffered)
  | .list _, value => some (wrongType value "a sequence")
  | .optional _, .null => none
  | .optional shape, value | .defaulted shape, value => shape.fault? buffered value
  | .oneOf name shapes, value => if fitsOne shapes value then none else some (noVariant name)
  | .record _ fields, .object members =>
    (firstFault? (memberFaults buffered fields members)).or (missing? fields members)
  | .record name fields, .array items =>
    (itemFault? buffered (name ++ " with " ++ elements fields.length) 0 fields items).or
      (if items.length ≤ fields.length then none
        else if buffered then
          some (wrongLength items.length (elements fields.length ++ " in sequence"))
        else some (wrongLength items.length "fewer elements in array"))
  | .record name _, value => some (wrongType value ("struct " ++ name))
  | .joined _ fields parts, .object members =>
    ((firstFault? (memberFaults buffered fields members)).or (missing? fields members)).or
      (partFault? parts members)
  | .joined name _ _, value => some (wrongType value ("struct " ++ name))

/-- Whether a value has one of several shapes. -/
def fitsOne : List Shape → Json → Bool
  | [], _ => false
  | shape :: shapes, value => (shape.fault? true value).isNone || fitsOne shapes value

/-- The faults of the members that are fields, each with its key. -/
def memberFaults (buffered : Bool) :
    List (String × Shape) → List (String × Json) → List (String × String)
  | [], _ => []
  | (name, shape) :: fields, members =>
    let later := memberFaults buffered fields members
    match members.lookup name with
    | none => later
    | some value =>
      match shape.fault? buffered value with
      | some fault => (name, fault) :: later
      | none => later

/-- The first fault of the items of an array, each of which is the field at its place. -/
def itemFault? (buffered : Bool) (expected : String) (place : Nat) :
    List (String × Shape) → List Json → Option String
  | [], _ => none
  | _ :: _, [] => some (wrongLength place ("struct " ++ expected))
  | (_, shape) :: fields, item :: items =>
    (shape.fault? buffered item).or (itemFault? buffered expected (place + 1) fields items)

/-- The first fault of the parts of an object. -/
def partFault? : List (List (String × Shape)) → List (String × Json) → Option String
  | [], _ => none
  | fields :: parts, members =>
    ((firstFault? (memberFaults true fields members)).or (missing? fields members)).or
      (partFault? parts members)

end

/-- What is wrong with parameters. -/
def faultOf? (shape : Shape) (params : Json) : Option String :=
  shape.fault? false params.sorted

end Shape

end CodeBridge

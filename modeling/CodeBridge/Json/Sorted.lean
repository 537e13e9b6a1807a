import CodeBridge.Json.Value

/-! # Objects in order

The members of an object in the order of their keys, each key once and with its last value. Two
objects that mean the same have the same sorted form.
-/

namespace CodeBridge.Json

/-- Puts a member among members in the order of their keys, in place of any with its key. -/
def putSorted (key : String) (value : Json) : List (String × Json) → List (String × Json)
  | [] => [(key, value)]
  | (other, kept) :: rest =>
    if key < other then (key, value) :: (other, kept) :: rest
    else if key = other then (key, value) :: rest
    else (other, kept) :: putSorted key value rest

mutual

/-- A value with the members of all its objects in order. -/
def sorted : Json → Json
  | .array items => .array (sortedItems items)
  | .object members => .object (sortedMembers [] members)
  | value => value

def sortedItems : List Json → List Json
  | [] => []
  | item :: items => item.sorted :: sortedItems items

/-- Members in order, behind those already in order. -/
def sortedMembers (placed : List (String × Json)) :
    List (String × Json) → List (String × Json)
  | [] => placed
  | (key, value) :: members => sortedMembers (putSorted key value.sorted placed) members

end

end CodeBridge.Json

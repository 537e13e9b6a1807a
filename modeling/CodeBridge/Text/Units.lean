/-! # UTF-16 code units

Editors and engines count text in UTF-16 code units: a character of the Basic Multilingual Plane is
one unit, any other character is a surrogate pair of two. Texts stay Unicode strings; only lengths
and offsets are measured here.
-/

namespace CodeBridge.Text

/-- Number of code units that spell one character. -/
def unitWidth (c : Char) : Nat :=
  if c.toNat < 0x10000 then 1 else 2

theorem unitWidth_pos (c : Char) : 0 < unitWidth c := by
  unfold unitWidth
  split <;> decide

/-- Number of code units that spell a run of characters. -/
def units : List Char → Nat
  | [] => 0
  | c :: cs => unitWidth c + units cs

@[simp] theorem units_nil : units [] = 0 := rfl

@[simp] theorem units_cons (c : Char) (cs : List Char) : units (c :: cs) = unitWidth c + units cs :=
  rfl

@[simp] theorem units_append (cs ds : List Char) : units (cs ++ ds) = units cs + units ds := by
  induction cs with
  | nil => simp
  | cons c cs ih => simp [ih, Nat.add_assoc]

/-- Length of a text in code units. -/
def unitLength (text : String) : Nat :=
  units text.toList

end CodeBridge.Text

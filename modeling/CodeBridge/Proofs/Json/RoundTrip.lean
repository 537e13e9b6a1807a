import CodeBridge.Proofs.Json.Literal

/-! # Values that were written

A value is exact if nothing of it is lost in its text: its numbers are integers of 64 bits, and no
string of it is ill-formed. Main statement: the text of an exact value is read as that value
(`read_write`).

Values are read with fuel, of which a text needs less than two units for each of its characters.
-/

namespace CodeBridge.Json

/-- A value whose text says all of it. -/
inductive Exact : Json → Prop
  | null : Exact .null
  | bool (value : Bool) : Exact (.bool value)
  | integer {value : Int} (low : -(UInt64.size / 2 : Nat) ≤ value) (high : value < UInt64.size) :
    Exact (.integer value)
  | string (text : String) : Exact (.string text)
  | array {items : List Json} (each : ∀ item ∈ items, Exact item) : Exact (.array items)
  | object {members : List (String × Json)} (each : ∀ member ∈ members, Exact member.2) :
    Exact (.object members)

/-- The characters of a value are read as that value, before anything that closes it. -/
def ReadsBack (v : Json) : Prop :=
  ∀ fuel rest, 2 * v.chars.length < fuel → Closes rest →
    value fuel (v.chars ++ rest) = some (v, rest)

theorem skipBlanks_cons {c : Char} (visible : isBlank c = false) (cs : List Char) :
    skipBlanks (c :: cs) = c :: cs := by
  rw [skipBlanks, List.dropWhile_cons_of_neg]
  simp [visible]

/-- A character that an integer can start with. -/
def StartsInteger (c : Char) : Prop :=
  c = '-' ∨ c.isDigit = true

instance (c : Char) : Decidable (StartsInteger c) :=
  inferInstanceAs (Decidable (_ ∨ _))

theorem exists_cons_decimal (value : Int) :
    ∃ first others, decimal value = first :: others ∧ StartsInteger first := by
  cases value with
  | ofNat n =>
    obtain ⟨first, others, shape, digit⟩ := exists_cons_toDigits n
    exact ⟨first, others, shape, .inr digit⟩
  | negSucc n => exact ⟨'-', _, rfl, .inl rfl⟩

theorem StartsInteger.isBlank_eq_false {c : Char} (starts : StartsInteger c) :
    isBlank c = false := by
  rw [Bool.eq_false_iff]
  intro blank
  simp only [isBlank, Bool.or_eq_true, beq_iff_eq] at blank
  rcases blank with ((rfl | rfl) | rfl) | rfl <;> exact absurd starts (by decide)

/-- Nothing but an integer starts as an integer does. -/
theorem StartsInteger.value_eq_number {c : Char} (starts : StartsInteger c) (fuel : Nat)
    (cs : List Char) : value (fuel + 1) (c :: cs) = number (c :: cs) := by
  rw [value, skipBlanks_cons starts.isBlank_eq_false]
  split
  case h_7 => rfl
  -- Every other branch asks for a first character that starts no integer.
  all_goals
    next shape =>
    cases shape
    exact absurd starts (by decide)

/-- A value starts with a character that is no blank and does not close an array. -/
theorem Exact.exists_cons_chars {v : Json} (exact : v.Exact) :
    ∃ first others, v.chars = first :: others ∧ isBlank first = false ∧ first ≠ ']' := by
  cases exact with
  | null => exact ⟨_, _, rfl, rfl, by decide⟩
  | bool value => cases value <;> exact ⟨_, _, rfl, rfl, by decide⟩
  | @integer value _ _ =>
    obtain ⟨first, others, shape, starts⟩ := exists_cons_decimal value
    refine ⟨first, others, shape, starts.isBlank_eq_false, ?_⟩
    rintro rfl
    exact absurd starts (by decide)
  | string text => exact ⟨_, _, rfl, rfl, by decide⟩
  | @array items _ => cases items <;> exact ⟨_, _, rfl, rfl, by decide⟩
  | @object members _ => cases members <;> exact ⟨_, _, rfl, rfl, by decide⟩

/-! ## Items and members -/

section Steps

variable {item : Json} {fuel : Nat} {cs rest : List Char}

theorem items_last (read : value fuel cs = some (item, ']' :: rest)) :
    Json.items (fuel + 1) cs = some ([item], rest) := by
  simp only [Json.items, read]
  rfl

theorem items_more (read : value fuel cs = some (item, ',' :: rest)) :
    Json.items (fuel + 1) cs =
      (Json.items fuel rest).map fun (read, rest) => (item :: read, rest) := by
  simp only [Json.items, read]
  rfl

theorem members_last (key : String) (read : value fuel cs = some (item, '\x7d' :: rest)) :
    Json.members (fuel + 1) (quoted key ++ ':' :: cs) = some ([(some key, item)], rest) := by
  rw [quoted, List.cons_append, List.append_assoc, List.singleton_append, Json.members,
    skipBlanks_cons rfl]
  simp only [literal_escaped, skipBlanks_cons (show isBlank ':' = false from rfl), read]
  rfl

theorem members_more (key : String) (read : value fuel cs = some (item, ',' :: rest)) :
    Json.members (fuel + 1) (quoted key ++ ':' :: cs) =
      (Json.members fuel rest).map fun (read, rest) => ((some key, item) :: read, rest) := by
  rw [quoted, List.cons_append, List.append_assoc, List.singleton_append, Json.members,
    skipBlanks_cons rfl]
  simp only [literal_escaped, skipBlanks_cons (show isBlank ':' = false from rfl), read]
  rfl

end Steps

/-- If each item is read back, so are all of them, up to the closing bracket. -/
theorem items_chars {item : Json} {items : List Json} (each : ∀ v ∈ item :: items, v.ReadsBack)
    (fuel : Nat) (enough : 2 * (item.chars ++ charsOfItems items).length < fuel)
    (rest : List Char) :
    Json.items fuel (item.chars ++ charsOfItems items ++ rest) = some (item :: items, rest) := by
  induction items generalizing item fuel with
  | nil =>
    obtain ⟨fuel, rfl⟩ : ∃ less, fuel = less + 1 := ⟨fuel - 1, by omega⟩
    simp only [charsOfItems, List.length_append, List.length_singleton] at enough
    have first := each item List.mem_cons_self fuel (']' :: rest) (by omega) (.bracket rest)
    rw [charsOfItems, List.append_assoc]
    exact items_last first
  | cons next items ih =>
    obtain ⟨fuel, rfl⟩ : ∃ less, fuel = less + 1 := ⟨fuel - 1, by omega⟩
    -- The comma pays for the unit of fuel that this item takes from the later ones.
    simp only [charsOfItems, List.length_append, List.length_cons] at enough
    have first := each item List.mem_cons_self fuel
      (',' :: (next.chars ++ charsOfItems items ++ rest)) (by omega) (.comma _)
    have others := ih (fun v member => each v (List.mem_cons_of_mem _ member)) fuel
      (by rw [List.length_append]; omega)
    rw [charsOfItems, List.append_assoc, List.cons_append, items_more first, others]
    rfl

/-- If each member's value is read back, so are all members, up to the closing brace. -/
theorem members_chars {key : String} {item : Json} {members : List (String × Json)}
    (each : ∀ member ∈ (key, item) :: members, member.2.ReadsBack) (fuel : Nat)
    (enough : 2 * (quoted key ++ ':' :: (item.chars ++ charsOfMembers members)).length < fuel)
    (rest : List Char) :
    Json.members fuel (quoted key ++ ':' :: (item.chars ++ charsOfMembers members) ++ rest) =
      some (((key, item) :: members).map fun member => (some member.1, member.2), rest) := by
  induction members generalizing key item fuel with
  | nil =>
    obtain ⟨fuel, rfl⟩ : ∃ less, fuel = less + 1 := ⟨fuel - 1, by omega⟩
    obtain ⟨(reads : item.ReadsBack), -⟩ := List.forall_mem_cons.mp each
    simp only [charsOfMembers, List.length_append, List.length_cons, List.length_nil] at enough
    have first := reads fuel ('\x7d' :: rest) (by omega) (.brace rest)
    rw [charsOfMembers, List.append_assoc, List.cons_append, List.append_assoc]
    exact members_last key first
  | cons next members ih =>
    obtain ⟨fuel, rfl⟩ : ∃ less, fuel = less + 1 := ⟨fuel - 1, by omega⟩
    obtain ⟨nextKey, next⟩ := next
    obtain ⟨(reads : item.ReadsBack), later⟩ := List.forall_mem_cons.mp each
    simp only [charsOfMembers, List.length_append, List.length_cons] at enough
    have first := reads fuel
      (',' :: (quoted nextKey ++ ':' :: (next.chars ++ charsOfMembers members) ++ rest)) (by omega)
      (.comma _)
    have others := ih later fuel (by simp only [List.length_append, List.length_cons]; omega)
    rw [charsOfMembers, List.append_assoc, List.cons_append, List.append_assoc, List.cons_append,
      members_more key first, others]
    rfl

/-! ## Values -/

theorem ofMembers_map_some (members : List (String × Json)) :
    ofMembers (members.map fun member => (some member.1, member.2)) = .object members := by
  have keys : (members.map fun member => (some member.1, member.2)).mapM
      (fun member => member.1.map (·, member.2)) = some members := by
    induction members with
    | nil => rfl
    | cons member members ih =>
      rw [List.map_cons, List.mapM_cons, ih]
      rfl
  simp only [ofMembers, keys]

/-- Of the fuel that a value has to its own, one unit is for the value itself. -/
theorem ReadsBack.of_succ {v : Json}
    (reads : ∀ fuel rest, 2 * v.chars.length ≤ fuel → Closes rest →
      value (fuel + 1) (v.chars ++ rest) = some (v, rest)) : v.ReadsBack := by
  rintro (_ | fuel) rest enough closes
  · omega
  · exact reads fuel rest (by omega) closes

theorem readsBack_integer {value : Int} (low : -(UInt64.size / 2 : Nat) ≤ value)
    (high : value < UInt64.size) : (Json.integer value).ReadsBack := by
  refine .of_succ fun fuel rest _ closes => ?_
  obtain ⟨first, others, shape, starts⟩ := exists_cons_decimal value
  rw [chars, shape, List.cons_append, starts.value_eq_number, ← List.cons_append, ← shape,
    number_decimal low high closes]

theorem readsBack_string (text : String) : (Json.string text).ReadsBack := by
  refine .of_succ fun fuel rest _ _ => ?_
  rw [chars, quoted, List.cons_append, List.append_assoc, List.singleton_append, value,
    skipBlanks_cons rfl]
  simp only [literal_escaped]
  rfl

/-- What stands in a bracket and does not close it is read as items. -/
theorem value_bracket (fuel : Nat) {first : Char} (visible : isBlank first = false)
    (opens : first ≠ ']') (cs : List Char) :
    value (fuel + 1) ('[' :: first :: cs) =
      (Json.items fuel (first :: cs)).map fun (read, rest) => (.array read, rest) := by
  rw [value, skipBlanks_cons rfl]
  simp only [skipBlanks_cons visible]
  split
  · next shape =>
    cases shape
    exact absurd rfl opens
  · rfl

theorem readsBack_array {items : List Json} (exact : ∀ item ∈ items, item.Exact)
    (each : ∀ item ∈ items, item.ReadsBack) : (Json.array items).ReadsBack := by
  refine .of_succ fun fuel rest enough _ => ?_
  cases items with
  | nil => rfl
  | cons item items =>
    rw [chars, List.length_cons] at enough
    have read := items_chars each fuel (by omega) rest
    obtain ⟨first, others, shape, visible, opens⟩ :=
      (exact item List.mem_cons_self).exists_cons_chars
    rw [shape, List.cons_append, List.cons_append] at read
    rw [chars, shape, List.cons_append, List.cons_append, List.cons_append,
      value_bracket fuel visible opens, read]
    rfl

/-- What stands in a brace and starts a key is read as members. -/
theorem value_brace (fuel : Nat) (cs : List Char) :
    value (fuel + 1) ('\x7b' :: '"' :: cs) =
      (Json.members fuel ('"' :: cs)).map fun (read, rest) => (ofMembers read, rest) :=
  rfl

theorem readsBack_object {members : List (String × Json)}
    (each : ∀ member ∈ members, member.2.ReadsBack) : (Json.object members).ReadsBack := by
  refine .of_succ fun fuel rest enough _ => ?_
  cases members with
  | nil => rfl
  | cons member members =>
    obtain ⟨key, item⟩ := member
    rw [chars, List.length_cons] at enough
    have read := members_chars each fuel (by omega) rest
    rw [quoted, List.cons_append, List.cons_append] at read
    rw [chars, quoted, List.cons_append, List.cons_append, List.cons_append, value_brace, read]
    simp only [Option.map_some, ofMembers_map_some]

/-- The characters of an exact value are read back. -/
theorem Exact.readsBack {v : Json} (exact : v.Exact) : v.ReadsBack := by
  induction exact with
  | null => exact .of_succ fun _ _ _ _ => rfl
  | bool value => cases value <;> exact .of_succ fun _ _ _ _ => rfl
  | integer low high => exact readsBack_integer low high
  | string text => exact readsBack_string text
  | array each ih => exact readsBack_array each ih
  | object each ih => exact readsBack_object ih

/-- An exact value is the value of its text. -/
theorem Exact.read_write {v : Json} (exact : v.Exact) : read v.write = some v := by
  have reads := exact.readsBack (2 * v.chars.length + 2) [] (by omega) .nil
  rw [List.append_nil] at reads
  rw [read, write, String.toList_ofList, readChars, reads]
  rfl

end CodeBridge.Json

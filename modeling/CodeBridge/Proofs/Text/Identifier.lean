import CodeBridge.Text.Identifier
import Mathlib.Data.List.Basic
import Mathlib.Data.List.Infix
import Mathlib.Data.List.TakeWhile

/-! # Identifiers before an offset

An offset is in code units and may fall between the halves of a surrogate pair or past the end, so
it does not always stand between two characters. It cuts a text behind the shortest run of whole
characters that reaches it (`ShortestFront`), and what has been typed there is the longest run of
identifier characters at the end of that run (`LongestIdentifier`).

A text is stored in UTF-8, where neither characters nor code units are what is counted. A scan over
its bytes passes the characters up to the offset, looks back for the last one that belongs to no
identifier, steps over it and slices the text there. A slice that would cut a character is refused
(`slice?`); this one never is (`sliceIdentifier?_eq`).
-/

namespace CodeBridge.Text

/-! ## Where an offset cuts -/

/-- The shortest run of whole characters at the front of a text with at least `count` code units. -/
structure ShortestFront (cs : List Char) (count : Nat) (front : List Char) : Prop where
  at_front : front <+: cs
  enough : count ≤ units front
  least : ∀ other, other <+: cs → count ≤ units other → front <+: other

/-- There is only one such run. -/
theorem ShortestFront.unique {cs front other : List Char} {count : Nat}
    (shortest : ShortestFront cs count front) (shortest' : ShortestFront cs count other) :
    front = other := by
  have below := shortest.least other shortest'.at_front shortest'.enough
  have above := shortest'.least front shortest.at_front shortest.enough
  exact below.eq_of_length_le above.length_le

theorem takeUnits_isFront (offset : Nat) (cs : List Char) : takeUnits offset cs <+: cs := by
  induction cs generalizing offset with
  | nil => exact List.nil_prefix
  | cons c cs ih =>
    unfold takeUnits
    split
    · exact List.nil_prefix
    · exact List.cons_prefix_cons.mpr ⟨rfl, ih _⟩

theorem le_units_takeUnits (offset : Nat) (cs : List Char) :
    min offset (units cs) ≤ units (takeUnits offset cs) := by
  induction cs generalizing offset with
  | nil => simp
  | cons c cs ih =>
    unfold takeUnits
    split
    · next zero => simp [zero]
    · have := ih (offset - unitWidth c)
      simp only [units_cons]
      omega

theorem takeUnits_isFront_of_le {offset : Nat} {cs other : List Char} (front : other <+: cs)
    (enough : min offset (units cs) ≤ units other) : takeUnits offset cs <+: other := by
  induction cs generalizing offset other with
  | nil => exact List.nil_prefix
  | cons c cs ih =>
    have wide := unitWidth_pos c
    unfold takeUnits
    split
    · exact List.nil_prefix
    · cases other with
      | nil =>
        simp only [units_cons, units_nil] at enough
        omega
      | cons d rest =>
        obtain ⟨rfl, later⟩ := List.cons_prefix_cons.mp front
        refine List.cons_prefix_cons.mpr ⟨rfl, ih later ?_⟩
        simp only [units_cons] at enough
        omega

theorem shortestFront_takeUnits (offset : Nat) (cs : List Char) :
    ShortestFront cs (min offset (units cs)) (takeUnits offset cs) where
  at_front := takeUnits_isFront offset cs
  enough := le_units_takeUnits offset cs
  least _ front enough := takeUnits_isFront_of_le front enough

/-- A later offset cuts later, or at the same place. -/
theorem takeUnits_isFront_takeUnits {first second : Nat} (ordered : first ≤ second)
    (cs : List Char) : takeUnits first cs <+: takeUnits second cs := by
  apply takeUnits_isFront_of_le (takeUnits_isFront second cs)
  have := le_units_takeUnits second cs
  omega

/-! ## What is typed there -/

/-- The longest run of identifier characters at the end of a text. -/
structure LongestIdentifier (cs identifier : List Char) : Prop where
  at_end : identifier <:+ cs
  word : ∀ c ∈ identifier, isIdentifierChar c = true
  longest : ∀ other, other <:+ cs → (∀ c ∈ other, isIdentifierChar c = true) →
    other <:+ identifier

/-- Identifier characters that follow a text go on with the identifier that it ends with. -/
theorem identifierSuffix_append {typed : List Char}
    (word : ∀ c ∈ typed, isIdentifierChar c = true) (front : List Char) :
    identifierSuffix (front ++ typed) = identifierSuffix front ++ typed := by
  have backwards : ∀ c ∈ typed.reverse, isIdentifierChar c = true := by
    intro c member
    exact word c (List.mem_reverse.mp member)
  rw [identifierSuffix, List.reverse_append, List.takeWhile_append_of_pos backwards,
    List.reverse_append, List.reverse_reverse, identifierSuffix]

/-- Behind any other character nothing has been typed yet. -/
theorem identifierSuffix_concat_of_not {c : Char} (other : isIdentifierChar c = false)
    (front : List Char) : identifierSuffix (front ++ [c]) = [] := by
  simp [identifierSuffix, other]

theorem longestIdentifier_identifierSuffix (cs : List Char) :
    LongestIdentifier cs (identifierSuffix cs) where
  at_end := by
    rw [← List.reverse_prefix, identifierSuffix, List.reverse_reverse]
    exact List.takeWhile_prefix _
  word c member := List.mem_takeWhile_imp (List.mem_reverse.mp member)
  longest other back word := by
    obtain ⟨front, rfl⟩ := back
    rw [identifierSuffix_append word]
    exact List.suffix_append _ _

/-- What is typed behind an identifier goes on with it. -/
theorem identifierBefore_append {text : String} {first second : Nat} {typed : List Char}
    (cut : takeUnits first text.toList ++ typed = takeUnits second text.toList)
    (word : ∀ c ∈ typed, isIdentifierChar c = true) :
    identifierBefore text second = identifierBefore text first ++ typed := by
  rw [identifierBefore, ← cut, identifierSuffix_append word, identifierBefore]

/-! ## The scan over bytes -/

/-- Number of bytes that spell a run of characters in UTF-8. -/
def bytes : List Char → Nat
  | [] => 0
  | c :: cs => c.utf8Size + bytes cs

theorem bytes_append (cs ds : List Char) : bytes (cs ++ ds) = bytes cs + bytes ds := by
  induction cs with
  | nil => simp [bytes]
  | cons c cs ih => simp [bytes, ih, Nat.add_assoc]

theorem utf8ByteSize_ofList (cs : List Char) : (String.ofList cs).utf8ByteSize = bytes cs := by
  induction cs with
  | nil => rfl
  | cons c cs ih =>
    rw [← List.singleton_append, String.ofList_append, String.utf8ByteSize_append, ih,
      ← String.singleton_eq_ofList, String.utf8ByteSize_singleton]
    rfl

/-- The text between two bytes. There is none if the bytes are out of order or if one of them is
inside a character. -/
def slice? (text : String) (start stop : Nat) : Option String :=
  if whole : String.Pos.Raw.IsValid text ⟨start⟩ ∧ String.Pos.Raw.IsValid text ⟨stop⟩ ∧
      start ≤ stop then
    some (text.extract ⟨⟨start⟩, whole.1⟩ ⟨⟨stop⟩, whole.2.1⟩)
  else none

/-- The characters of a text, each with the byte that it starts at. -/
def charIndices (start : Nat) : List Char → List (Nat × Char)
  | [] => []
  | c :: cs => (start, c) :: charIndices (start + c.utf8Size) cs

/-- The byte at which a scan stops that has `passed` some code units: that of the first character
before which `offset` code units have been passed, else `stop`. -/
def stopByte (offset stop : Nat) : Nat → List (Nat × Char) → Nat
  | _, [] => stop
  | passed, (byte, c) :: rest =>
    if offset ≤ passed then byte else stopByte offset stop (passed + unitWidth c) rest

/-- The byte behind the last character that belongs to no identifier. -/
def startByte (entries : List (Nat × Char)) : Nat :=
  match entries.reverse.find? fun entry => !isIdentifierChar entry.2 with
  | some (byte, c) => byte + c.utf8Size
  | none => 0

/-- The identifier before an offset, sliced out of the text. -/
def sliceIdentifier? (text : String) (offset : Nat) : Option String := do
  let before ← slice? text 0 (stopByte offset text.utf8ByteSize 0 (charIndices 0 text.toList))
  slice? before (startByte (charIndices 0 before.toList)) before.utf8ByteSize

theorem slice?_append (front middle back : String) :
    slice? (front ++ middle ++ back) front.utf8ByteSize
      (front.utf8ByteSize + middle.utf8ByteSize) = some middle := by
  have starts : String.Pos.Raw.IsValid (front ++ middle ++ back) ⟨front.utf8ByteSize⟩ :=
    String.Pos.Raw.isValid_iff_exists_append.mpr
      ⟨front, middle ++ back, String.append_assoc, rfl⟩
  have stops : String.Pos.Raw.IsValid (front ++ middle ++ back)
      ⟨front.utf8ByteSize + middle.utf8ByteSize⟩ := by
    rw [← String.utf8ByteSize_append]
    exact String.Pos.Raw.isValid_iff_exists_append.mpr ⟨front ++ middle, back, rfl, rfl⟩
  rw [slice?, dif_pos ⟨starts, stops, Nat.le_add_right _ _⟩]
  apply congrArg some
  apply String.toByteArray_inj.mp
  change (front ++ middle ++ back).toByteArray.extract (front.toByteArray.size + 0)
    (front.toByteArray.size + middle.toByteArray.size) = middle.toByteArray
  rw [String.toByteArray_append, String.toByteArray_append, ByteArray.append_assoc,
    ByteArray.extract_append_size_add, ByteArray.extract_append_eq_left rfl]

/-- A text is sliced between whole characters. -/
theorem slice?_of_toList {text : String} {front middle back : List Char}
    (whole : text.toList = front ++ middle ++ back) :
    slice? text (bytes front) (bytes front + bytes middle) = some (String.ofList middle) := by
  have spelled : text = String.ofList front ++ String.ofList middle ++ String.ofList back := by
    rw [← String.ofList_append, ← String.ofList_append, ← whole, String.ofList_toList]
  rw [spelled, ← utf8ByteSize_ofList, ← utf8ByteSize_ofList]
  exact slice?_append _ _ _

/-- The scan for an offset stops behind the characters that reach it. -/
theorem stopByte_charIndices (offset passed start : Nat) (cs : List Char) :
    stopByte offset (start + bytes cs) passed (charIndices start cs) =
      start + bytes (takeUnits (offset - passed) cs) := by
  induction cs generalizing passed start with
  | nil => rfl
  | cons c cs ih =>
    rw [charIndices, stopByte, takeUnits]
    by_cases reached : offset ≤ passed
    · rw [if_pos reached, if_pos (by omega)]
      rfl
    · have next := ih (passed + unitWidth c) (start + c.utf8Size)
      rw [if_neg reached, if_neg (by omega)]
      simp only [bytes, Nat.sub_add_eq, Nat.add_assoc] at next ⊢
      exact next

theorem charIndices_concat (start : Nat) (cs : List Char) (c : Char) :
    charIndices start (cs ++ [c]) = charIndices start cs ++ [(start + bytes cs, c)] := by
  induction cs generalizing start with
  | nil => rfl
  | cons d cs ih => simp only [List.cons_append, charIndices, ih, bytes, Nat.add_assoc]

/-- Up to where the scan back ends, and from there on the identifier: that is the whole text. -/
theorem startByte_charIndices (cs : List Char) :
    startByte (charIndices 0 cs) + bytes (identifierSuffix cs) = bytes cs := by
  -- From the end, as the scan goes: a character that belongs to no identifier ends it there.
  induction cs using List.reverseRecOn with
  | nil => rfl
  | append_singleton cs c ih =>
    rw [charIndices_concat, startByte, List.reverse_append, List.reverse_singleton,
      List.singleton_append, bytes_append]
    cases word : isIdentifierChar c with
    | true =>
      have typed : ∀ d ∈ [c], isIdentifierChar d = true := by simpa using word
      rw [identifierSuffix_append typed, List.find?_cons_of_neg (by simp [word]), bytes_append,
        ← startByte, ← ih, Nat.add_assoc]
    | false =>
      rw [identifierSuffix_concat_of_not word, List.find?_cons_of_pos (by simp [word])]
      simp [bytes]

theorem utf8ByteSize_eq_bytes (text : String) : text.utf8ByteSize = bytes text.toList := by
  rw [← utf8ByteSize_ofList, String.ofList_toList]

/-- What stands before an offset is sliced behind a whole character. -/
theorem slice?_stopByte (text : String) (offset : Nat) :
    slice? text 0 (stopByte offset text.utf8ByteSize 0 (charIndices 0 text.toList)) =
      some (String.ofList (takeUnits offset text.toList)) := by
  obtain ⟨rest, cut⟩ := takeUnits_isFront offset text.toList
  have scan := stopByte_charIndices offset 0 0 text.toList
  rw [Nat.zero_add, ← utf8ByteSize_eq_bytes] at scan
  have whole : text.toList = [] ++ takeUnits offset text.toList ++ rest := cut.symm
  rw [scan]
  exact slice?_of_toList whole

/-- What a text ends with is sliced behind the last character that belongs to no identifier. -/
theorem slice?_startByte (text : String) :
    slice? text (startByte (charIndices 0 text.toList)) text.utf8ByteSize =
      some (String.ofList (identifierSuffix text.toList)) := by
  obtain ⟨head, ends⟩ := (longestIdentifier_identifierSuffix text.toList).at_end
  have whole : text.toList = head ++ identifierSuffix text.toList ++ [] := by
    rw [List.append_nil, ends]
  have size : bytes text.toList = bytes head + bytes (identifierSuffix text.toList) := by
    rw [← bytes_append, ends]
  have starts : startByte (charIndices 0 text.toList) = bytes head := by
    have := startByte_charIndices text.toList
    omega
  rw [utf8ByteSize_eq_bytes, starts, size]
  exact slice?_of_toList whole

/-- The scan over bytes cuts no character, and what it slices out is the identifier. -/
theorem sliceIdentifier?_eq (text : String) (offset : Nat) :
    sliceIdentifier? text offset = some (String.ofList (identifierBefore text offset)) := by
  rw [sliceIdentifier?, slice?_stopByte, Option.bind_eq_bind, Option.bind_some, slice?_startByte,
    String.toList_ofList, identifierBefore]

end CodeBridge.Text

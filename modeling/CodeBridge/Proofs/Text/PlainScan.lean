import CodeBridge.Proofs.Text.LineTable
import Mathlib.Data.List.DropRight
import Mathlib.Data.List.TakeWhile

/-! # The line index against a plain scan

A text can be read without a table. Spelled out in UTF-16 it is a run of code units: the line of an
offset is the number of newlines in the units before it, and its column is the number of units
behind the last of them. Cut into lines, each with the newline that ends it, the text tells where a
line starts: behind all the lines before it.

The index gives the same answers from its table, whatever the widths of the characters and wherever
the newlines stand. How the table is searched makes no difference: there is only one place where a
search can end (`Splits`), and the entry before that place is always there.
-/

namespace CodeBridge

namespace Text

/-! ## Code units -/

/-- A character in UTF-16: itself, or a surrogate pair. -/
def codeUnits (c : Char) : List UInt16 :=
  if c.toNat < 0x10000 then [.ofNat c.toNat]
  else
    [.ofNat (0xD800 + (c.toNat - 0x10000) / 0x400), .ofNat (0xDC00 + (c.toNat - 0x10000) % 0x400)]

/-- A run of characters in UTF-16. -/
def utf16 (cs : List Char) : List UInt16 :=
  cs.flatMap codeUnits

/-- The code unit that ends a line. -/
def newlineUnit : UInt16 := 0x000A

theorem length_codeUnits (c : Char) : (codeUnits c).length = unitWidth c := by
  unfold codeUnits unitWidth
  split <;> rfl

theorem length_utf16 (cs : List Char) : (utf16 cs).length = units cs := by
  induction cs with
  | nil => rfl
  | cons c cs ih =>
    rw [utf16, List.flatMap_cons, List.length_append, length_codeUnits, ← utf16, ih, units_cons]

/-- Surrogates are never taken for a newline, nor is any other character. -/
theorem newlineUnit_not_mem_codeUnits {c : Char} (other : c ≠ '\n') :
    newlineUnit ∉ codeUnits c := by
  have bound : c.toNat < 0x110000 := by
    have := c.valid
    simp only [UInt32.isValidChar, Nat.isValidChar] at this
    change c.val.toNat < 0x110000
    omega
  have differs : c.toNat ≠ 0x000A := fun same => other (Char.toNat_inj.mp same)
  have apart {n : Nat} (small : n < 0x10000) (differs : n ≠ 0x000A) : newlineUnit ≠ .ofNat n := by
    intro same
    have value : 0x000A = n % 0x10000 := congrArg UInt16.toNat same
    omega
  unfold codeUnits
  split
  · exact mt List.mem_singleton.mp (apart (by omega) differs)
  · have high := apart (n := 0xD800 + (c.toNat - 0x10000) / 0x400) (by omega) (by omega)
    have low := apart (n := 0xDC00 + (c.toNat - 0x10000) % 0x400) (by omega) (by omega)
    exact List.not_mem_cons_of_ne_of_not_mem high (mt List.mem_singleton.mp low)

/-! ## Lines -/

/-- The lines of a text, each with the newline that ends it. The last one has none. -/
def lines : List Char → List (List Char)
  | [] => [[]]
  | c :: cs =>
    if c = '\n' then [c] :: lines cs
    else
      match lines cs with
      | [] => [[c]]
      | line :: rest => (c :: line) :: rest

theorem lines_ne_nil (cs : List Char) : lines cs ≠ [] := by
  cases cs with
  | nil => exact List.cons_ne_nil _ _
  | cons c cs =>
    unfold lines
    split
    · exact List.cons_ne_nil _ _
    · split <;> exact List.cons_ne_nil _ _

theorem lines_newline (cs : List Char) : lines ('\n' :: cs) = ['\n'] :: lines cs := rfl

/-- A character that ends no line stands at the front of the line that follows it. -/
theorem exists_lines_cons {c : Char} (other : c ≠ '\n') (cs : List Char) :
    ∃ line rest, lines cs = line :: rest ∧ lines (c :: cs) = (c :: line) :: rest := by
  obtain ⟨line, rest, shape⟩ := List.exists_cons_of_ne_nil (lines_ne_nil cs)
  refine ⟨line, rest, shape, ?_⟩
  rw [lines, if_neg other, shape]

/-- Nothing is lost, the newlines included. -/
theorem flatten_lines (cs : List Char) : (lines cs).flatten = cs := by
  induction cs with
  | nil => rfl
  | cons c cs ih =>
    by_cases newline : c = '\n'
    · rw [newline, lines_newline, List.flatten_cons, ih]
      rfl
    · obtain ⟨line, rest, shape, shape'⟩ := exists_lines_cons newline cs
      rw [shape, List.flatten_cons] at ih
      rw [shape', List.flatten_cons, List.cons_append, ih]

theorem length_lines (cs : List Char) : (lines cs).length = cs.count '\n' + 1 := by
  induction cs with
  | nil => rfl
  | cons c cs ih =>
    by_cases newline : c = '\n'
    · rw [newline, lines_newline, List.length_cons, ih, List.count_cons_self]
    · obtain ⟨line, rest, shape, shape'⟩ := exists_lines_cons newline cs
      rw [shape, List.length_cons] at ih
      rw [shape', List.length_cons, ih, List.count_cons_of_ne newline]

/-- How far the first lines of a text reach, in code units. -/
def linesEnd (cs : List Char) (count : Nat) : Nat :=
  (utf16 ((lines cs).take count).flatten).length

/-! ## Places -/

/-- The code units of a text up to an offset; all of them if the offset is past the end. -/
def unitsBefore (cs : List Char) (offset : Nat) : List UInt16 :=
  (utf16 cs).take (min offset (utf16 cs).length)

/-- The number of newlines in some code units. -/
def lineOf (before : List UInt16) : Nat :=
  before.count newlineUnit

/-- The number of code units behind the last newline of some. -/
def columnOf (before : List UInt16) : Nat :=
  (before.rtakeWhile (· ≠ newlineUnit)).length

theorem columnOf_concat (before : List UInt16) (unit : UInt16) :
    columnOf (before ++ [unit]) = if unit = newlineUnit then 0 else columnOf before + 1 := by
  rw [columnOf, List.rtakeWhile_concat]
  by_cases newline : unit = newlineUnit
  · simp [newline]
  · simp [newline, columnOf]

end Text

namespace LineIndex

open Text

/-! ## The table, unit by unit -/

theorem length_ofChars (cs : List Char) : (ofChars cs).length = (utf16 cs).length :=
  (length_utf16 cs).symm

/-- Offsets just after each newline, for a run of code units that begins at `offset`. -/
def startsIn (offset : Nat) : List UInt16 → List Nat
  | [] => []
  | unit :: rest =>
    if unit = newlineUnit then (offset + 1) :: startsIn (offset + 1) rest
    else startsIn (offset + 1) rest

theorem startsIn_append (offset : Nat) (front back : List UInt16) :
    startsIn offset (front ++ back) =
      startsIn offset front ++ startsIn (offset + front.length) back := by
  induction front generalizing offset with
  | nil => rfl
  | cons unit rest ih =>
    have shift : offset + (unit :: rest).length = offset + 1 + rest.length := by
      rw [List.length_cons]
      omega
    rw [List.cons_append, startsIn, startsIn, ih, shift]
    split <;> rfl

theorem startsIn_eq_nil {units : List UInt16} (none : newlineUnit ∉ units) (offset : Nat) :
    startsIn offset units = [] := by
  induction units generalizing offset with
  | nil => rfl
  | cons unit rest ih =>
    obtain ⟨first, later⟩ := List.ne_and_not_mem_of_not_mem_cons none
    rw [startsIn, if_neg (Ne.symm first), ih later]

/-- The table is the same whether the text is read by characters or by code units. -/
theorem startsAfter_eq_startsIn (offset : Nat) (cs : List Char) :
    startsAfter offset cs = startsIn offset (utf16 cs) := by
  induction cs generalizing offset with
  | nil => rfl
  | cons c cs ih =>
    rw [startsAfter, utf16, List.flatMap_cons, startsIn_append, length_codeUnits, ← utf16, ih]
    by_cases newline : c = '\n'
    · rw [if_pos newline, newline]
      rfl
    · rw [if_neg newline, startsIn_eq_nil (newlineUnit_not_mem_codeUnits newline), List.nil_append]

theorem length_startsIn (offset : Nat) (units : List UInt16) :
    (startsIn offset units).length = lineOf units := by
  induction units generalizing offset with
  | nil => rfl
  | cons unit rest ih =>
    unfold startsIn lineOf
    by_cases newline : unit = newlineUnit
    · rw [if_pos newline, List.length_cons, ih, newline, List.count_cons_self, lineOf]
    · rw [if_neg newline, ih, List.count_cons_of_ne newline, lineOf]

theorem bounds_of_mem_startsIn {offset start : Nat} {units : List UInt16}
    (member : start ∈ startsIn offset units) : offset < start ∧ start ≤ offset + units.length := by
  induction units generalizing offset with
  | nil => cases member
  | cons unit rest ih =>
    rw [List.length_cons]
    unfold startsIn at member
    split at member
    · rcases List.mem_cons.mp member with rfl | later
      · omega
      · have := ih later
        omega
    · have := ih member
      omega

/-- The starts up to an offset are those that the code units before it give. -/
theorem takeWhile_startsIn (units : List UInt16) (offset : Nat) :
    (startsIn 0 units).takeWhile (· ≤ offset) = startsIn 0 (units.take offset) := by
  have split := startsIn_append 0 (units.take offset) (units.drop offset)
  rw [List.take_append_drop, Nat.zero_add] at split
  have early : ∀ start ∈ startsIn 0 (units.take offset), start ≤ offset := by
    intro start member
    have := (bounds_of_mem_startsIn member).2
    rw [List.length_take] at this
    omega
  have late : ∀ start ∈ startsIn (units.take offset).length (units.drop offset),
      offset < start := by
    intro start member
    have := bounds_of_mem_startsIn member
    rw [List.length_take, List.length_drop] at this
    omega
  have rest : (startsIn (units.take offset).length (units.drop offset)).takeWhile (· ≤ offset) =
      [] := by
    rw [List.takeWhile_eq_nil_iff]
    intro nonempty
    simpa using late _ (List.get_mem _ ⟨0, nonempty⟩)
  rw [split, List.takeWhile_append_of_pos (by simpa using early), rest, List.append_nil]

/-- The last line start before the end of a run of code units, and the column of that end. -/
theorem getLastD_startsIn (units : List UInt16) :
    (startsIn 0 units).getLastD 0 + columnOf units = units.length := by
  -- From the end: a newline there is the last start, any other unit moves the column on by one.
  induction units using List.reverseRecOn with
  | nil => rfl
  | append_singleton front unit ih =>
    rw [startsIn_append, columnOf_concat, List.length_append, Nat.zero_add]
    by_cases newline : unit = newlineUnit
    · simp [startsIn, newline]
    · simp [startsIn, newline, ← ih, Nat.add_assoc]

/-! ## Lines -/

/-- Behind each line but the last one the table has the place where the lines up to it end. -/
theorem getElem?_startsAfter (offset : Nat) (cs : List Char) (line : Nat) :
    (startsAfter offset cs)[line]? =
      if line + 1 < (lines cs).length then some (offset + linesEnd cs (line + 1)) else none := by
  unfold linesEnd
  simp only [length_utf16]
  induction cs generalizing offset line with
  | nil => simp [startsAfter, lines]
  | cons c cs ih =>
    by_cases newline : c = '\n'
    · subst newline
      have some_line := List.length_pos_of_ne_nil (lines_ne_nil cs)
      rw [startsAfter, if_pos rfl, lines_newline]
      cases line with
      | zero => simp [some_line]
      | succ line =>
        simp only [List.getElem?_cons_succ, ih, List.length_cons, Nat.add_lt_add_iff_right,
          List.take_succ_cons, List.flatten_cons, units_append, units_cons, units_nil,
          Nat.add_zero, Nat.add_assoc offset]
    · obtain ⟨first, rest, shape, shape'⟩ := exists_lines_cons newline cs
      -- Every end of a line lies behind this character, so all of them move by its width.
      rw [startsAfter, if_neg newline, ih, shape, shape']
      simp [Nat.add_assoc]

theorem getElem?_starts (cs : List Char) (line : Nat) :
    (ofChars cs).starts[line]? =
      if line < (lines cs).length then some (linesEnd cs line) else none := by
  cases line with
  | zero => simp [ofChars, linesEnd, utf16, List.length_pos_of_ne_nil (lines_ne_nil cs)]
  | succ line => simpa [ofChars] using getElem?_startsAfter 0 cs line

theorem lineCount_ofChars (cs : List Char) : (ofChars cs).lineCount = cs.count '\n' + 1 := by
  rw [← length_lines, lineCount]
  refine Nat.le_antisymm (List.getElem?_eq_none_iff.mp ?_) (Nat.le_of_not_lt fun short => ?_)
  · rw [getElem?_starts, if_neg (Nat.lt_irrefl _)]
  · have := List.getElem?_eq_none_iff.mpr (Nat.le_refl (ofChars cs).starts.length)
    rw [getElem?_starts, if_pos short] at this
    cases this

/-- All lines together are the text. -/
theorem linesEnd_lineCount (cs : List Char) :
    linesEnd cs (ofChars cs).lineCount = (utf16 cs).length := by
  rw [lineCount_ofChars, ← length_lines, linesEnd, List.take_length, flatten_lines]

/-- The offset of a position is found by going over the lines before it. -/
theorem offset_eq_scan (cs : List Char) (position : Position) :
    (ofChars cs).offset position =
      if position.line.toNat ≤ (ofChars cs).lineCount then
        .ok (min (linesEnd cs position.line.toNat + position.character.toNat) (utf16 cs).length)
      else .error ⟨position.line, (ofChars cs).lineCount⟩ := by
  rcases Nat.lt_trichotomy position.line.toNat (ofChars cs).lineCount with inside | atEnd | beyond
  · have atLine : (ofChars cs).starts[position.line.toNat]? =
        some (linesEnd cs position.line.toNat) := by
      rw [getElem?_starts, if_pos]
      rwa [lineCount_ofChars, ← length_lines] at inside
    rw [offset_of_start atLine, if_pos inside.le, length_ofChars]
  · have outside : ¬position.line.toNat < (ofChars cs).starts.length := atEnd.not_lt
    rw [offset, dif_neg outside, if_pos atEnd, if_pos atEnd.le, atEnd, linesEnd_lineCount,
      length_ofChars, Nat.min_eq_right (Nat.le_add_right ..)]
  · have outside : ¬position.line.toNat < (ofChars cs).starts.length := beyond.not_gt
    rw [offset, dif_neg outside, if_neg beyond.ne', if_neg beyond.not_ge]

/-! ## Offsets -/

/-- The position of an offset is found by counting newlines in the code units before it. -/
theorem position_eq_scan (cs : List Char) (offset : Nat) :
    (ofChars cs).position offset =
      ⟨.ofNat (lineOf (unitsBefore cs offset)), .ofNat (columnOf (unitsBefore cs offset))⟩ := by
  have before : (ofChars cs).starts.takeWhile (· ≤ min offset (utf16 cs).length) =
      0 :: startsIn 0 (unitsBefore cs offset) := by
    rw [ofChars, List.takeWhile_cons_of_pos (by simp), startsAfter_eq_startsIn,
      takeWhile_startsIn, unitsBefore]
  have column := getLastD_startsIn (unitsBefore cs offset)
  have whole : (unitsBefore cs offset).length = min offset (utf16 cs).length := by
    rw [unitsBefore, List.length_take]
    omega
  rw [position, length_ofChars]
  simp only [before, List.length_cons, Nat.add_sub_cancel, length_startsIn, List.getLastD_cons]
  congr
  omega

/-! ## The search in the table -/

/-- Where the search for an offset ends: the starts before that place are at or before the offset,
and those from it on are behind. -/
structure Splits (index : LineIndex) (offset place : Nat) : Prop where
  le_lineCount : place ≤ index.lineCount
  start_le : ∀ start ∈ index.starts.take place, start ≤ offset
  lt_start : ∀ start ∈ index.starts.drop place, offset < start

variable {index : LineIndex}

theorem WellFormed.exists_splits (valid : index.WellFormed) (offset : Nat) :
    ∃ place, index.Splits offset place := by
  obtain ⟨line, start, holds⟩ := valid.exists_holds offset
  have bound := (List.getElem?_eq_some_iff.mp holds.starts_at).1
  refine ⟨line + 1, bound, ?_, ?_⟩
  · rw [← valid.takeWhile_starts holds]
    intro start member
    simpa using List.mem_takeWhile_imp member
  · intro later member
    obtain ⟨gap, found⟩ := List.mem_iff_getElem?.mp member
    rw [List.getElem?_drop] at found
    have nextBound := (List.getElem?_eq_some_iff.mp found).1
    have next : index.starts[line + 1]? = some index.starts[line + 1] :=
      List.getElem?_eq_getElem (by omega)
    have := holds.lt_next _ next
    have := valid.start_le_start (Nat.le_add_right ..) next found
    omega

namespace Splits

/-- The entry before the place where a search ends is there: it is the start of the line that holds
the offset. -/
theorem exists_holds (valid : index.WellFormed) {offset place : Nat}
    (splits : index.Splits offset place) :
    0 < place ∧ ∃ start, index.Holds (place - 1) start offset := by
  have positive : 0 < place := by
    refine Nat.pos_of_ne_zero fun zero => ?_
    have := splits.lt_start 0 (by simpa [zero] using List.mem_of_getElem? valid.first)
    omega
  have bound : place - 1 < index.starts.length := by
    have := splits.le_lineCount
    rw [lineCount] at this
    omega
  refine ⟨positive, index.starts[place - 1], List.getElem?_eq_getElem bound, ?_, ?_⟩
  · refine splits.start_le _ (List.mem_of_getElem? (i := place - 1) ?_)
    rw [List.getElem?_take_of_lt (by omega), List.getElem?_eq_getElem bound]
  · intro next atNext
    rw [Nat.sub_add_cancel positive] at atNext
    refine splits.lt_start _ (List.mem_of_getElem? (i := 0) ?_)
    rwa [List.getElem?_drop, Nat.add_zero]

theorem unique (valid : index.WellFormed) {offset place other : Nat}
    (splits : index.Splits offset place) (splits' : index.Splits offset other) :
    place = other := by
  obtain ⟨positive, start, holds⟩ := splits.exists_holds valid
  obtain ⟨positive', start', holds'⟩ := splits'.exists_holds valid
  have := valid.line_le_line holds holds' (Nat.le_refl _)
  have := valid.line_le_line holds' holds (Nat.le_refl _)
  omega

end Splits

/-! ## All answers -/

theorem columnOf_le_length (units : List UInt16) : columnOf units ≤ units.length := by
  have := getLastD_startsIn units
  omega

/-- The index answers as a plain scan of the text does. A position stands by its column behind the
lines before it, at most at the end; only lines beyond the one after the last are refused. An offset
stands on the line that the newlines before it count, as far into it as the last of them is back.
The search for it ends at one place, and the entry before that place is there and not past it. -/
theorem answers_match_plain_scan (text : String)
    (fits : (utf16 text.toList).length < UInt32.size) :
    (ofText text).lineCount = text.toList.count '\n' + 1 ∧
    (ofText text).length = (utf16 text.toList).length ∧
    linesEnd text.toList (ofText text).lineCount = (utf16 text.toList).length ∧
    (∀ position : Position,
      (ofText text).offset position =
        if position.line.toNat ≤ (ofText text).lineCount then
          .ok (min (linesEnd text.toList position.line.toNat + position.character.toNat)
            (utf16 text.toList).length)
        else .error ⟨position.line, (ofText text).lineCount⟩) ∧
    (∀ offset,
      ((ofText text).position offset).line.toNat = lineOf (unitsBefore text.toList offset) ∧
      ((ofText text).position offset).character.toNat =
        columnOf (unitsBefore text.toList offset)) ∧
    ∀ offset, ∃! place, (ofText text).Splits (min offset (ofText text).length) place ∧
      0 < place ∧ ∃ start, (ofText text).starts[place - 1]? = some start ∧
        start ≤ min offset (ofText text).length ∧
        (ofText text).position offset =
          ⟨.ofNat (place - 1), .ofNat (min offset (ofText text).length - start)⟩ := by
  have valid := ofText_wellFormed text
  refine ⟨lineCount_ofChars _, length_ofChars _, linesEnd_lineCount _, offset_eq_scan _,
    fun offset => ?_, fun offset => ?_⟩
  · have small : (unitsBefore text.toList offset).length ≤ (utf16 text.toList).length :=
      List.length_take_le' ..
    have line : lineOf (unitsBefore text.toList offset) ≤ _ := List.count_le_length
    have column := columnOf_le_length (unitsBefore text.toList offset)
    rw [ofText, position_eq_scan]
    exact ⟨UInt32.toNat_ofNat_of_lt' (by omega), UInt32.toNat_ofNat_of_lt' (by omega)⟩
  · obtain ⟨place, splits⟩ := valid.exists_splits (min offset (ofText text).length)
    obtain ⟨positive, start, holds⟩ := splits.exists_holds valid
    refine ⟨place, ⟨splits, positive, start, holds.starts_at, holds.start_le, ?_⟩, ?_⟩
    · rw [← position_min, position_of_holds valid holds (Nat.min_le_right ..)]
    · rintro other ⟨splits', -⟩
      exact splits'.unique valid splits

/-- A text with a carriage return, an empty line and a newline at its end. Its third line starts
with a surrogate pair, and the offset 7 is in the middle of it. -/
theorem answers_match_plain_scan_surrogates :
    (utf16 "a𝄞\r\n\n𝄞b\n".toList).length < UInt32.size ∧
    (ofText "a𝄞\r\n\n𝄞b\n").lineCount = 4 ∧
    (ofText "a𝄞\r\n\n𝄞b\n").offset ⟨1, 3⟩ = .ok 8 ∧
    (ofText "a𝄞\r\n\n𝄞b\n").offset ⟨4, 9⟩ = .ok 10 ∧
    (ofText "a𝄞\r\n\n𝄞b\n").offset ⟨5, 0⟩ = .error ⟨5, 4⟩ ∧
    ((ofText "a𝄞\r\n\n𝄞b\n").position 7).line.toNat = 2 ∧
    ((ofText "a𝄞\r\n\n𝄞b\n").position 7).character.toNat = 1 := by
  have fits : (utf16 "a𝄞\r\n\n𝄞b\n".toList).length < UInt32.size := by decide
  obtain ⟨count, -, -, offsets, positions, -⟩ := answers_match_plain_scan _ fits
  refine ⟨fits, count, ?_, ?_, ?_, (positions 7).1, (positions 7).2⟩
  · exact (offsets ⟨1, 3⟩).trans rfl
  · exact (offsets ⟨4, 9⟩).trans rfl
  · exact (offsets ⟨5, 0⟩).trans rfl

end LineIndex

end CodeBridge

import CodeBridge.Text.LineIndex

/-! # The table of line starts

The starts of a text's lines increase strictly from zero and stay within the text, so every offset
is held by exactly one line: the last one that starts at or before it. Both look-ups of an index are
read off that line here, without a word about how they search the table. Widths of words play no
part yet; they enter with the bounds of `WellFormed.line_le_start`.
-/

namespace CodeBridge.LineIndex

open Text

/-- The first line starts at zero, later lines start later, and none starts past the end. -/
structure WellFormed (index : LineIndex) : Prop where
  first : index.starts[0]? = some 0
  increasing : index.starts.Pairwise (· < ·)
  bounded : ∀ start ∈ index.starts, start ≤ index.length

theorem lt_of_mem_startsAfter {offset start : Nat} {cs : List Char}
    (member : start ∈ startsAfter offset cs) : offset < start := by
  induction cs generalizing offset with
  | nil => simp [startsAfter] at member
  | cons c cs ih =>
    have wide := unitWidth_pos c
    unfold startsAfter at member
    split at member
    · rcases List.mem_cons.mp member with rfl | later
      · omega
      · have := ih later
        omega
    · have := ih member
      omega

theorem le_of_mem_startsAfter {offset start : Nat} {cs : List Char}
    (member : start ∈ startsAfter offset cs) : start ≤ offset + units cs := by
  induction cs generalizing offset with
  | nil => simp [startsAfter] at member
  | cons c cs ih =>
    rw [units_cons]
    unfold startsAfter at member
    split at member
    · rcases List.mem_cons.mp member with rfl | later
      · omega
      · have := ih later
        omega
    · have := ih member
      omega

theorem startsAfter_increasing (offset : Nat) (cs : List Char) :
    (startsAfter offset cs).Pairwise (· < ·) := by
  induction cs generalizing offset with
  | nil => exact .nil
  | cons c cs ih =>
    unfold startsAfter
    split
    · exact .cons (fun _ later => lt_of_mem_startsAfter later) (ih _)
    · exact ih _

theorem ofChars_wellFormed (cs : List Char) : (ofChars cs).WellFormed where
  first := rfl
  increasing := .cons (fun _ later => lt_of_mem_startsAfter later) (startsAfter_increasing 0 cs)
  bounded := by
    intro start member
    rcases List.mem_cons.mp member with rfl | later
    · exact Nat.zero_le _
    · have := le_of_mem_startsAfter later
      rwa [Nat.zero_add] at this

theorem ofText_wellFormed (text : String) : (ofText text).WellFormed :=
  ofChars_wellFormed _

/-- A line that starts at `start` holds an offset: it starts at or before the offset, and the next
line, if there is one, starts behind it. -/
structure Holds (index : LineIndex) (line start offset : Nat) : Prop where
  starts_at : index.starts[line]? = some start
  start_le : start ≤ offset
  lt_next : ∀ next, index.starts[line + 1]? = some next → offset < next

variable {index : LineIndex}

namespace WellFormed

theorem start_lt (valid : index.WellFormed) {line other start later : Nat} (before : line < other)
    (atLine : index.starts[line]? = some start) (atOther : index.starts[other]? = some later) :
    start < later := by
  obtain ⟨lineBound, rfl⟩ := List.getElem?_eq_some_iff.mp atLine
  obtain ⟨otherBound, rfl⟩ := List.getElem?_eq_some_iff.mp atOther
  exact List.pairwise_iff_getElem.mp valid.increasing line other lineBound otherBound before

theorem start_le_start (valid : index.WellFormed) {line other start later : Nat}
    (ordered : line ≤ other) (atLine : index.starts[line]? = some start)
    (atOther : index.starts[other]? = some later) : start ≤ later := by
  rcases Nat.eq_or_lt_of_le ordered with rfl | before
  · exact Nat.le_of_eq (Option.some.inj (atLine.symm.trans atOther))
  · exact Nat.le_of_lt (valid.start_lt before atLine atOther)

theorem start_le_length (valid : index.WellFormed) {line start : Nat}
    (atLine : index.starts[line]? = some start) : start ≤ index.length :=
  valid.bounded start (List.mem_of_getElem? atLine)

/-- Each line before it takes up at least its newline, so a line never starts before its number. -/
theorem line_le_start (valid : index.WellFormed) {line start : Nat}
    (atLine : index.starts[line]? = some start) : line ≤ start := by
  induction line generalizing start with
  | zero => exact Nat.zero_le _
  | succ line ih =>
    have bound := (List.getElem?_eq_some_iff.mp atLine).1
    have before : index.starts[line]? = some index.starts[line] :=
      List.getElem?_eq_getElem (by omega)
    have := ih before
    have := valid.start_lt (Nat.lt_succ_self line) before atLine
    omega

/-- The line that holds an offset is the only one to do so, and it is monotone in the offset. -/
theorem line_le_line (valid : index.WellFormed) {line start offset line' start' offset' : Nat}
    (holds : index.Holds line start offset) (holds' : index.Holds line' start' offset')
    (ordered : offset ≤ offset') : line ≤ line' := by
  refine Nat.le_of_not_lt fun behind => ?_
  have bound := (List.getElem?_eq_some_iff.mp holds.starts_at).1
  have next : index.starts[line' + 1]? = some index.starts[line' + 1] :=
    List.getElem?_eq_getElem (by omega)
  have := valid.start_le_start behind next holds.starts_at
  have := holds'.lt_next _ next
  have := holds.start_le
  omega

/-- Every offset is held by a line: the last one that does not start behind it. -/
theorem exists_holds (valid : index.WellFormed) (offset : Nat) :
    ∃ line start, index.Holds line start offset := by
  let behind := index.starts.findIdx fun start => !decide (start ≤ offset)
  have some_before : 0 < behind := by
    obtain ⟨bound, first⟩ := List.getElem?_eq_some_iff.mp valid.first
    refine List.lt_findIdx_of_not bound fun j small => ?_
    obtain rfl : j = 0 := by omega
    simp [first]
  have bound : behind ≤ index.starts.length := List.findIdx_le_length
  have atLine : index.starts[behind - 1]? = some index.starts[behind - 1] :=
    List.getElem?_eq_getElem (by omega)
  refine ⟨behind - 1, _, atLine, ?_, ?_⟩
  · have := List.not_of_lt_findIdx (show behind - 1 < behind by omega)
    simpa using this
  · intro next atNext
    rw [Nat.sub_add_cancel some_before] at atNext
    obtain ⟨nextBound, rfl⟩ := List.getElem?_eq_some_iff.mp atNext
    have := List.findIdx_getElem (w := nextBound)
    simpa using this

/-- The starts at or before an offset are those of the lines up to the one that holds it. -/
theorem takeWhile_starts (valid : index.WellFormed) {line start offset : Nat}
    (holds : index.Holds line start offset) :
    index.starts.takeWhile (· ≤ offset) = index.starts.take (line + 1) := by
  have lineBound := (List.getElem?_eq_some_iff.mp holds.starts_at).1
  have early : ∀ j (small : j ≤ line), index.starts[j] ≤ offset := by
    intro j small
    have atJ : index.starts[j]? = some index.starts[j] := List.getElem?_eq_getElem (by omega)
    exact Nat.le_trans (valid.start_le_start small atJ holds.starts_at) holds.start_le
  rw [List.takeWhile_eq_take_findIdx_not]
  by_cases last : line + 1 < index.starts.length
  · have late := holds.lt_next _ (List.getElem?_eq_getElem last)
    congr 1
    rw [List.findIdx_eq last]
    exact ⟨by simpa using late, fun j small => by simpa using early j (by omega)⟩
  · have all : index.starts.findIdx (fun start => !decide (start ≤ offset)) =
        index.starts.length := by
      rw [List.findIdx_eq_length]
      intro start member
      obtain ⟨j, bound, rfl⟩ := List.mem_iff_getElem.mp member
      simpa using early j (by omega)
    rw [all, List.take_length, List.take_of_length_le (by omega)]

end WellFormed

theorem position_min (index : LineIndex) (offset : Nat) :
    index.position (min offset index.length) = index.position offset := by
  simp only [position, Nat.min_assoc, Nat.min_self]

/-- The position of an offset, read off the line that holds it. -/
theorem position_of_holds (valid : index.WellFormed) {line start offset : Nat}
    (holds : index.Holds line start offset) (within : offset ≤ index.length) :
    index.position offset = ⟨.ofNat line, .ofNat (offset - start)⟩ := by
  have lineBound := (List.getElem?_eq_some_iff.mp holds.starts_at).1
  have last : (index.starts.take (line + 1)).getLastD 0 = start := by
    rw [List.getLastD_eq_getLast?, List.getLast?_take, if_neg (Nat.succ_ne_zero line)]
    simp [holds.starts_at]
  simp only [position, Nat.min_eq_left within, valid.takeWhile_starts holds, last,
    List.length_take]
  congr
  omega

/-- The offset of a position on a line of the text. -/
theorem offset_of_start {start : Nat} {position : Position}
    (atLine : index.starts[position.line.toNat]? = some start) :
    index.offset position = .ok (min (start + position.character.toNat) index.length) := by
  obtain ⟨bound, rfl⟩ := List.getElem?_eq_some_iff.mp atLine
  rw [offset, dif_pos bound]

/-- A position has an offset exactly if its line is not beyond the one after the last. -/
theorem offset_isOk_iff (index : LineIndex) (position : Position) :
    (∃ offset, index.offset position = .ok offset) ↔
      position.line.toNat ≤ index.lineCount := by
  unfold offset lineCount
  split
  · exact ⟨fun _ => by omega, fun _ => ⟨_, rfl⟩⟩
  · split
    · exact ⟨fun _ => by omega, fun _ => ⟨_, rfl⟩⟩
    · exact ⟨fun ⟨_, success⟩ => (nomatch success), fun _ => by omega⟩

end CodeBridge.LineIndex

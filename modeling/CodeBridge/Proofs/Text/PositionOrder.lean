import CodeBridge.Proofs.Text.LineTable
import Mathlib.Data.Prod.Lex
import Mathlib.Order.Hom.Set

/-! # Offsets and positions in order

Positions are ordered by line, then by column. A position is valid if its column stands within its
line: before the start of the next line or, on the last line, not past the end of the text.

As long as the length of a text fits into a position, its offsets and its valid positions are the
same thing in two spellings: both look-ups undo each other and both keep the order. Positions that
are not valid still have offsets, but reading such an offset back gives another position.
-/

namespace CodeBridge

/-- Positions are compared by line, then by column. -/
def Position.key (position : Position) : ℕ ×ₗ ℕ :=
  toLex (position.line.toNat, position.character.toNat)

theorem Position.key_injective : Function.Injective Position.key := by
  intro left right same
  have pairs : (left.line.toNat, left.character.toNat) =
      (right.line.toNat, right.character.toNat) := same
  cases left
  cases right
  simpa only [Prod.mk.injEq, UInt32.toNat_inj, Position.mk.injEq] using pairs

instance : LinearOrder Position := LinearOrder.lift' Position.key Position.key_injective

theorem Position.lt_iff (left right : Position) :
    left < right ↔ left.line.toNat < right.line.toNat ∨
      left.line.toNat = right.line.toNat ∧ left.character.toNat < right.character.toNat :=
  Prod.Lex.toLex_lt_toLex

namespace LineIndex

variable {index : LineIndex}

/-- The column of a position stands within its line. -/
def IsValid (index : LineIndex) (position : Position) : Prop :=
  match index.starts[position.line.toNat]?, index.starts[position.line.toNat + 1]? with
  | none, _ => False
  | some start, some next => start + position.character.toNat < next
  | some start, none => start + position.character.toNat ≤ index.length

instance (index : LineIndex) (position : Position) : Decidable (index.IsValid position) :=
  match h : index.starts[position.line.toNat]?, h' : index.starts[position.line.toNat + 1]? with
  | none, _ => isFalse (by simp [IsValid, h])
  | some _, some _ => decidable_of_iff _ (by rw [IsValid, h, h'])
  | some _, none => decidable_of_iff _ (by rw [IsValid, h, h'])

/-- A valid position stands for an offset that its own line holds. -/
theorem isValid_iff_holds (valid : index.WellFormed) (position : Position) :
    index.IsValid position ↔ ∃ start, start + position.character.toNat ≤ index.length ∧
      index.Holds position.line.toNat start (start + position.character.toNat) := by
  unfold IsValid
  constructor
  · intro inLine
    split at inLine
    · exact inLine.elim
    · next start next atLine atNext =>
      have := valid.start_le_length atNext
      refine ⟨start, by omega, atLine, Nat.le_add_right .., ?_⟩
      intro other atOther
      cases atNext.symm.trans atOther
      exact inLine
    · next start atLine noNext =>
      refine ⟨start, inLine, atLine, Nat.le_add_right .., ?_⟩
      intro other atOther
      cases noNext.symm.trans atOther
  · rintro ⟨start, within, holds⟩
    rw [holds.starts_at]
    split
    · contradiction
    · next atLine atNext =>
      cases atLine
      exact holds.lt_next _ atNext
    · next atLine _ =>
      cases atLine
      exact within

/-- In a text that fits into positions, the words of a position are its line and column as they
are. -/
theorem exists_holds_position (valid : index.WellFormed) (fits : index.length < UInt32.size)
    {offset : Nat} (within : offset ≤ index.length) :
    ∃ line start, index.Holds line start offset ∧
      (index.position offset).line.toNat = line ∧
      (index.position offset).character.toNat = offset - start := by
  obtain ⟨line, start, holds⟩ := valid.exists_holds offset
  have := valid.line_le_start holds.starts_at
  have := holds.start_le
  refine ⟨line, start, holds, ?_, ?_⟩
  · rw [position_of_holds valid holds within]
    exact UInt32.toNat_ofNat_of_lt' (by omega)
  · rw [position_of_holds valid holds within]
    exact UInt32.toNat_ofNat_of_lt' (by omega)

/-- Reading an offset back from its position gives the offset, cut to the text. -/
theorem offset_position (valid : index.WellFormed) (fits : index.length < UInt32.size)
    (offset : Nat) : index.offset (index.position offset) = .ok (min offset index.length) := by
  have within := Nat.min_le_right offset index.length
  obtain ⟨line, start, holds, atLine, atColumn⟩ := exists_holds_position valid fits within
  rw [← position_min, offset_of_start (by rw [atLine]; exact holds.starts_at), atColumn,
    Nat.add_sub_cancel' holds.start_le, Nat.min_eq_left within]

/-- Every offset is shown at a valid position. -/
theorem position_isValid (valid : index.WellFormed) (fits : index.length < UInt32.size)
    (offset : Nat) : index.IsValid (index.position offset) := by
  have within := Nat.min_le_right offset index.length
  obtain ⟨line, start, holds, atLine, atColumn⟩ := exists_holds_position valid fits within
  rw [← position_min, isValid_iff_holds valid]
  refine ⟨start, ?_, ?_⟩
  · rw [atColumn, Nat.add_sub_cancel' holds.start_le]
    exact within
  · rw [atLine, atColumn, Nat.add_sub_cancel' holds.start_le]
    exact holds

/-- A valid position has an offset within the text, and is where that offset is shown. -/
theorem exists_offset_of_isValid (valid : index.WellFormed) {position : Position}
    (inLine : index.IsValid position) :
    ∃ offset ≤ index.length,
      index.offset position = .ok offset ∧ index.position offset = position := by
  obtain ⟨start, within, holds⟩ := (isValid_iff_holds valid position).mp inLine
  refine ⟨_, within, ?_, ?_⟩
  · rw [offset_of_start holds.starts_at, Nat.min_eq_left within]
  · rw [position_of_holds valid holds within, Nat.add_sub_cancel_left]
    simp only [UInt32.ofNat_toNat]

/-- Within the text, a later offset has a later position. -/
theorem position_lt_position (valid : index.WellFormed) (fits : index.length < UInt32.size)
    {first second : Nat} (ordered : first < second) (within : second ≤ index.length) :
    index.position first < index.position second := by
  obtain ⟨line, start, holds, atLine, atColumn⟩ :=
    exists_holds_position valid fits (ordered.le.trans within)
  obtain ⟨line', start', holds', atLine', atColumn'⟩ := exists_holds_position valid fits within
  rw [Position.lt_iff, atLine, atLine', atColumn, atColumn']
  rcases (valid.line_le_line holds holds' ordered.le).lt_or_eq with earlier | rfl
  · exact .inl earlier
  · obtain rfl := Option.some.inj (holds.starts_at.symm.trans holds'.starts_at)
    have := holds.start_le
    exact .inr ⟨rfl, by omega⟩

theorem position_le_position (valid : index.WellFormed) (fits : index.length < UInt32.size)
    {first second : Nat} (ordered : first ≤ second) :
    index.position first ≤ index.position second := by
  rw [← position_min index first, ← position_min index second]
  have cut : min first index.length ≤ min second index.length := by omega
  rcases cut.lt_or_eq with earlier | same
  · exact (position_lt_position valid fits earlier (Nat.min_le_right ..)).le
  · rw [same]

/-- The offsets of a text and its valid positions, matched in order. -/
noncomputable def orderIso (valid : index.WellFormed) (fits : index.length < UInt32.size) :
    Set.Iic index.length ≃o {position : Position // index.IsValid position} :=
  StrictMono.orderIsoOfSurjective
    (fun offset => ⟨index.position offset, position_isValid valid fits offset⟩)
    (fun _ second ordered => position_lt_position valid fits ordered second.2)
    (by
      rintro ⟨position, inLine⟩
      obtain ⟨offset, within, -, shown⟩ := exists_offset_of_isValid valid inLine
      exact ⟨⟨offset, within⟩, Subtype.ext shown⟩)

/-- In a text that fits into positions, offsets and valid positions correspond one to one and in
order. Reading back an offset only cuts it to the text; reading back a position that has an offset
succeeds exactly for the valid ones. -/
theorem positions_match_offsets (text : String) (fits : Text.unitLength text < UInt32.size) :
    (∀ offset, (ofText text).offset ((ofText text).position offset) =
      .ok (min offset (ofText text).length)) ∧
    (∀ position offset, (ofText text).offset position = .ok offset →
      ((ofText text).position offset = position ↔ (ofText text).IsValid position)) ∧
    (∀ first second, first ≤ second →
      (ofText text).position first ≤ (ofText text).position second) ∧
    (∀ first second, first < second → second ≤ (ofText text).length →
      (ofText text).position first < (ofText text).position second) ∧
    (∀ span : Span, span.start ≤ span.stop →
      ((ofText text).range span).start ≤ ((ofText text).range span).stop) ∧
    ∃ iso : Set.Iic (ofText text).length ≃o {position // (ofText text).IsValid position},
      ∀ offset, (iso offset).1 = (ofText text).position offset ∧
        (ofText text).offset (iso offset).1 = .ok offset := by
  have valid := ofText_wellFormed text
  refine ⟨offset_position valid fits, ?_, fun _ _ => position_le_position valid fits,
    fun _ _ => position_lt_position valid fits, fun _ => position_le_position valid fits,
    orderIso valid fits, ?_⟩
  · intro position offset success
    constructor
    · rintro rfl
      exact position_isValid valid fits offset
    · intro inLine
      obtain ⟨actual, -, succeeds, shown⟩ := exists_offset_of_isValid valid inLine
      cases success.symm.trans succeeds
      exact shown
  · intro offset
    refine ⟨rfl, ?_⟩
    change (ofText text).offset ((ofText text).position offset) = .ok offset.1
    rw [offset_position valid fits, Nat.min_eq_left offset.2]

/-- A text with a surrogate pair, a carriage return, an empty line and a newline at its end. The
column 7 is past the end of its first line, so its offset is shown on the third one. -/
theorem positions_match_offsets_mixed :
    Text.unitLength "é𝄞\r\n\nb\n" < UInt32.size ∧
      (ofText "é𝄞\r\n\nb\n").offset ((ofText "é𝄞\r\n\nb\n").position 6) = .ok 6 ∧
      (ofText "é𝄞\r\n\nb\n").offset ⟨0, 7⟩ = .ok 7 ∧
      (ofText "é𝄞\r\n\nb\n").position 7 ≠ ⟨0, 7⟩ ∧
      (ofText "é𝄞\r\n\nb\n").position 5 < (ofText "é𝄞\r\n\nb\n").position 6 := by
  have fits : Text.unitLength "é𝄞\r\n\nb\n" < UInt32.size := by decide
  have pastLine : (ofText "é𝄞\r\n\nb\n").offset ⟨0, 7⟩ = .ok 7 := by decide
  have invalid : ¬(ofText "é𝄞\r\n\nb\n").IsValid ⟨0, 7⟩ := by decide
  obtain ⟨back, shown, -, increasing, -, -⟩ := positions_match_offsets _ fits
  refine ⟨fits, back 6, pastLine, ?_, increasing 5 6 (by decide) (by decide)⟩
  exact fun same => invalid ((shown _ _ pastLine).mp same)

end LineIndex

end CodeBridge

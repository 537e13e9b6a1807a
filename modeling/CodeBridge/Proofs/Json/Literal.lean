import CodeBridge.Json.Reader
import CodeBridge.Json.Writer

/-! # Strings and integers that were written

A string is read back as it was written, whatever its characters are, and an integer of 64 bits is
read back as that integer. Both stop where they were written to stop: a string at its quote, and an
integer before anything that may follow a value in a compact text.
-/

namespace CodeBridge.Json

/-! ## Strings -/

/-- The characters that have an escape of two characters, each with the second of them. -/
def shortEscapes : List (Char × Char) :=
  [('"', '"'), ('\\', '\\'), ('\n', 'n'), ('\r', 'r'), ('\t', 't'), ('\x08', 'b'), ('\x0c', 'f')]

theorem escape_short : ∀ pair ∈ shortEscapes,
    escape pair.1 = ['\\', pair.2] ∧ pair.2 ≠ 'u' ∧ escaped? pair.2 = some pair.1 := by
  decide

theorem escape_of_not_short {c : Char} (other : c ∉ shortEscapes.map Prod.fst) :
    escape c = if c.toNat < 0x20 then
      ['\\', 'u', '0', '0', Text.lowerHexDigit (c.toNat / 16), Text.lowerHexDigit (c.toNat % 16)]
      else [c] := by
  simp only [shortEscapes, List.map_cons, List.map_nil, List.mem_cons, List.not_mem_nil, or_false,
    not_or] at other
  simp only [escape, other, if_false]

/-- The escape of a control character spells that character. -/
theorem unit?_control {c : Char} (control : c.toNat < 0x20) :
    unit? '0' '0' (Text.lowerHexDigit (c.toNat / 16)) (Text.lowerHexDigit (c.toNat % 16)) =
      some c.toNat := by
  have zero : Text.hexValue? '0' = some 0 := rfl
  have high := Text.hexValue?_lowerHexDigit (show c.toNat / 16 < 16 by omega)
  have low := Text.hexValue?_lowerHexDigit (show c.toNat % 16 < 16 by omega)
  simp only [unit?, zero, high, low, Option.bind_eq_bind, Option.bind_some, Option.some.injEq]
  omega

theorem ofUnit_control {c : Char} (control : c.toNat < 0x20) :
    Piece.ofUnit c.toNat = .char c := by
  rw [Piece.ofUnit, if_neg (by omega), Char.ofNat_toNat]

/-- However a character is written, it is read as one piece. -/
theorem pieces_escape (c : Char) (read : List Piece) (rest : List Char) :
    pieces read (escape c ++ rest) = pieces (.char c :: read) rest := by
  by_cases short : c ∈ shortEscapes.map Prod.fst
  · obtain ⟨⟨c, e⟩, listed, rfl⟩ := List.mem_map.mp short
    obtain ⟨written, notUnit, spelt⟩ := escape_short (c, e) listed
    simp only at written notUnit spelt
    simp [written, pieces, notUnit, spelt]
  · rw [escape_of_not_short short]
    split
    · next control =>
      simp only [List.cons_append, List.nil_append, pieces, unit?_control control,
        ofUnit_control control]
    · next visible =>
      simp only [shortEscapes, List.map_cons, List.mem_cons, not_or] at short
      simp [pieces, short, visible]

theorem pieces_flatMap_escape (text : List Char) (read : List Piece) (rest : List Char) :
    pieces read (text.flatMap escape ++ '"' :: rest) =
      some (read.reverse ++ text.map .char, rest) := by
  induction text generalizing read with
  | nil => simp [pieces]
  | cons c text ih =>
    rw [List.flatMap_cons, List.append_assoc, pieces_escape, ih]
    simp

theorem spell?_map_char (text : List Char) : spell? (text.map .char) = some text := by
  induction text with
  | nil => rfl
  | cons c text ih => simp [spell?, ih]

/-- A string is read back, up to the quote that closes it. -/
theorem literal_escaped (text : String) (rest : List Char) :
    literal (text.toList.flatMap escape ++ '"' :: rest) = some (some text, rest) := by
  simp [literal, pieces_flatMap_escape, spell?_map_char]

/-! ## Integers -/

/-- What can follow a value in a compact text. -/
inductive Closes : List Char → Prop
  | nil : Closes []
  | comma (rest : List Char) : Closes (',' :: rest)
  | bracket (rest : List Char) : Closes (']' :: rest)
  | brace (rest : List Char) : Closes ('\x7d' :: rest)

theorem natOfDigits_toDigits (n : Nat) : natOfDigits (Nat.toDigits 10 n) = n := by
  have sameStep : natOfDigits (Nat.toDigits 10 n) = Nat.ofDigitChars 10 (Nat.toDigits 10 n) 0 := by
    rw [natOfDigits, Nat.ofDigitChars_eq_foldl]
    simp only [Nat.mul_comm]
  rw [sameStep, Nat.ofDigitChars_ten_toDigits]

/-- Only zero starts with a zero. -/
theorem head?_toDigits_ne_zero {n : Nat} (positive : 0 < n) :
    (Nat.toDigits 10 n).head? ≠ some '0' := by
  induction n using Nat.strongRecOn with
  | ind n ih =>
    by_cases small : n < 10
    · rw [Nat.toDigits_of_lt_base small, List.head?_singleton, ne_eq, Option.some.injEq,
        Nat.digitChar_eq_zero]
      omega
    · have shorter := ih (n / 10) (by omega) (by omega)
      obtain ⟨first, others, shape⟩ :=
        List.exists_cons_of_ne_nil (Nat.toDigits_ne_nil (n := n / 10) (b := 10))
      rw [Nat.toDigits_of_base_le (by omega) (by omega), shape]
      rwa [shape] at shorter

theorem digits_toDigits (n : Nat) {rest : List Char} (closes : Closes rest) :
    digits (Nat.toDigits 10 n ++ rest) = some (Nat.toDigits 10 n, rest) := by
  have all : ∀ c ∈ Nat.toDigits 10 n, c.isDigit = true := fun c member =>
    Nat.isDigit_of_mem_toDigits (by omega) (by omega) member
  have taken : rest.takeWhile Char.isDigit = [] := by cases closes <;> rfl
  have left : rest.dropWhile Char.isDigit = rest := by cases closes <;> rfl
  have run : (Nat.toDigits 10 n ++ rest).takeWhile Char.isDigit = Nat.toDigits 10 n := by
    rw [List.takeWhile_append_of_pos all, taken, List.append_nil]
  unfold digits
  rw [run, List.dropWhile_append_of_pos all, left]
  split
  · next empty => exact absurd empty Nat.toDigits_ne_nil
  · rfl

/-- A run of digits alone, without leading zeros, is read as a whole number. -/
theorem unsigned_toDigits (negative : Bool) (n : Nat) {rest : List Char} (closes : Closes rest) :
    unsigned negative (Nat.toDigits 10 n ++ rest) =
      some (ofWhole negative (Nat.toDigits 10 n), rest) := by
  have noZeros : ¬(1 < (Nat.toDigits 10 n).length ∧ (Nat.toDigits 10 n).head? = some '0') := by
    rintro ⟨long, zero⟩
    obtain rfl | positive := Nat.eq_zero_or_pos n
    · rw [Nat.toDigits_zero] at long
      simp at long
    · exact head?_toDigits_ne_zero positive zero
  have noFraction : fraction rest = some (none, rest) := by cases closes <;> rfl
  have noExponent : exponent rest = some (none, rest) := by cases closes <;> rfl
  simp only [unsigned, digits_toDigits n closes, noZeros, noFraction, noExponent,
    Option.bind_eq_bind, Option.bind_some, if_false]

/-- The digits of a number start with a digit. -/
theorem exists_cons_toDigits (n : Nat) :
    ∃ first others, Nat.toDigits 10 n = first :: others ∧ first.isDigit = true := by
  obtain ⟨first, others, shape⟩ :=
    List.exists_cons_of_ne_nil (Nat.toDigits_ne_nil (n := n) (b := 10))
  refine ⟨first, others, shape, ?_⟩
  exact Nat.isDigit_of_mem_toDigits (by omega) (by omega) (shape ▸ List.mem_cons_self)

/-- An integer of 64 bits is read back, up to what closes it. -/
theorem number_decimal {value : Int} (low : -(UInt64.size / 2 : Nat) ≤ value)
    (high : value < UInt64.size) {rest : List Char} (closes : Closes rest) :
    number (decimal value ++ rest) = some (.integer value, rest) := by
  cases value with
  | ofNat n =>
    have whole : ofWhole false (Nat.toDigits 10 n) = .integer (Int.ofNat n) := by
      have fits : n < UInt64.size := Int.ofNat_lt.mp high
      simp [ofWhole, natOfDigits_toDigits, fits]
    have noSign : number (Nat.toDigits 10 n ++ rest) =
        unsigned false (Nat.toDigits 10 n ++ rest) := by
      obtain ⟨first, others, shape, digit⟩ := exists_cons_toDigits n
      rw [shape]
      unfold number
      split
      · next signed =>
        cases signed
        cases digit
      · rfl
    rw [decimal, noSign, unsigned_toDigits false n closes, whole]
  | negSucc n =>
    have fits : n + 1 ≤ UInt64.size / 2 := by
      rw [Int.negSucc_eq] at low
      omega
    have whole : ofWhole true (Nat.toDigits 10 (n + 1)) = .integer (Int.negSucc n) := by
      rw [ofWhole, natOfDigits_toDigits, if_pos ⟨rfl, Nat.succ_pos n, fits⟩]
      rfl
    rw [decimal, List.cons_append, number, unsigned_toDigits true (n + 1) closes, whole]

end CodeBridge.Json

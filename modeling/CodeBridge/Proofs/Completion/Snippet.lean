import Mathlib.Data.List.Infix

/-! # Snippets

What an editor makes of a snippet. A snippet is text with tab stops: `$1` is a stop, and a stop that
is written with braces, number and colon has a placeholder, which ends at its closing brace and may
hold further stops. A backslash takes the meaning from a dollar, a closing brace or a backslash that
follows it. Whatever is none of that stands for itself, a closing brace outside of all placeholders
included; choices and variables are left out.

A snippet is first cut into tokens (`tokens`) and then read token by token (`Reader.step`). Both are
accounted for by the character: each character is typed, or it is part of the markup
(`length_of_read?`). So a text that is typed in its full length has no markup in it.
-/

namespace CodeBridge.Snippet

/-! ## Tokens -/

/-- A part of a snippet as it is written. -/
inductive Token where
  /-- A character that stands for itself. -/
  | plain (c : Char)
  /-- A character behind a backslash. -/
  | escaped (c : Char)
  /-- A stop without a placeholder. -/
  | stop (digits : List Char)
  /-- The front of a stop with a placeholder, up to its colon. -/
  | opening (digits : List Char)
  | closing
  deriving DecidableEq, Repr

namespace Token

/-- The token of a character without a backslash or a number. -/
def literal (c : Char) : Token :=
  if c = '\x7d' then .closing else .plain c

def spelling : Token → List Char
  | .plain c => [c]
  | .escaped c => ['\\', c]
  | .stop digits => '$' :: digits
  | .opening digits => '$' :: '\x7b' :: digits ++ [':']
  | .closing => ['\x7d']

/-- Number of characters that are not typed on account of a token. For the front of a placeholder the
brace at its end is counted as well. -/
def overhead : Token → Nat
  | .plain _ | .closing => 0
  | .escaped _ => 1
  | .stop digits => digits.length + 1
  | .opening digits => digits.length + 4

end Token

/-- The characters that a backslash takes the meaning from. -/
def special : List Char := ['$', '\x7d', '\\']

theorem ne_of_not_special {c : Char} (ordinary : c ∉ special) : c ≠ '\\' ∧ c ≠ '$' := by
  constructor
  · rintro rfl
    exact ordinary (by decide)
  · rintro rfl
    exact ordinary (by decide)

/-- An escaped character after its backslash. -/
def escaped? : List Char → Option (Token × List Char)
  | [] => none
  | c :: rest => if c ∈ special then some (.escaped c, rest) else none

/-- The number of a stop after its dollar or its opening brace. -/
def digits? (text : List Char) : Option (List Char × List Char) :=
  match text.takeWhile Char.isDigit with
  | [] => none
  | digits => some (digits, text.dropWhile Char.isDigit)

/-- The front of a placeholder after its opening brace. -/
def opening? (text : List Char) : Option (Token × List Char) :=
  match digits? text with
  | some (digits, ':' :: rest) => some (.opening digits, rest)
  | _ => none

/-- A stop after its dollar. -/
def stop? : List Char → Option (Token × List Char)
  | '\x7b' :: rest => opening? rest
  | text => (digits? text).map fun (digits, rest) => (.stop digits, rest)

/-- The markup at the front of a text, and what follows it. A closing brace is left to the reader. -/
def markup? : List Char → Option (Token × List Char)
  | [] => none
  | c :: rest => if c = '\\' then escaped? rest else if c = '$' then stop? rest else none

/-! ### Spelling -/

section Spelling

variable {text digits rest : List Char} {token : Token}

theorem spelling_of_digits? (found : digits? text = some (digits, rest)) :
    text = digits ++ rest := by
  unfold digits? at found
  split at found
  · cases found
  · cases found
    exact List.takeWhile_append_dropWhile.symm

theorem spelling_of_opening? (found : opening? text = some (token, rest)) :
    '$' :: '\x7b' :: text = token.spelling ++ rest ∧ 0 < token.overhead := by
  unfold opening? at found
  split at found
  · next numbered =>
    cases found
    rw [spelling_of_digits? numbered]
    simp [Token.spelling, Token.overhead]
  · cases found

theorem spelling_of_stop? (found : stop? text = some (token, rest)) :
    '$' :: text = token.spelling ++ rest ∧ 0 < token.overhead := by
  unfold stop? at found
  split at found
  · exact spelling_of_opening? found
  · obtain ⟨⟨digits, following⟩, numbered, same⟩ := Option.map_eq_some_iff.mp found
    cases same
    rw [spelling_of_digits? numbered]
    simp [Token.spelling, Token.overhead]

/-- Markup is spelled by the front of its text, and not all of it is typed. -/
theorem spelling_of_markup? (found : markup? text = some (token, rest)) :
    text = token.spelling ++ rest ∧ 0 < token.overhead := by
  unfold markup? at found
  split at found
  · cases found
  · next c following =>
    split at found
    · next backslash =>
      subst backslash
      unfold escaped? at found
      split at found
      · cases found
      · split at found
        · cases found
          exact ⟨rfl, Nat.one_pos⟩
        · cases found
    · split at found
      · next dollar =>
        subst dollar
        exact spelling_of_stop? found
      · cases found

theorem length_of_markup? (found : markup? text = some (token, rest)) :
    rest.length < text.length := by
  rw [(spelling_of_markup? found).1, List.length_append]
  cases token <;> simp [Token.spelling]

end Spelling

/-- A text cut into tokens. -/
def tokens (text : List Char) : List Token :=
  match _ : markup? text with
  | some (token, rest) => token :: tokens rest
  | none =>
    match text with
    | [] => []
    | c :: rest => .literal c :: tokens rest
termination_by text.length
decreasing_by
  · next found => exact length_of_markup? found
  · exact Nat.lt_succ_self _

@[simp] theorem tokens_nil : tokens [] = [] := by
  rw [tokens]
  rfl

theorem tokens_of_markup? {text rest : List Char} {token : Token}
    (found : markup? text = some (token, rest)) : tokens text = token :: tokens rest := by
  rw [tokens]
  split
  · next found' =>
    cases found.symm.trans found'
    rfl
  · next absent => cases found.symm.trans absent

theorem tokens_cons {c : Char} {rest : List Char} (absent : markup? (c :: rest) = none) :
    tokens (c :: rest) = .literal c :: tokens rest := by
  rw [tokens]
  split
  · next found => cases absent.symm.trans found
  · rfl

theorem spelling_tokens (text : List Char) : (tokens text).flatMap Token.spelling = text := by
  fun_induction tokens text with
  | case1 text token rest found ih =>
    rw [List.flatMap_cons, ih]
    exact (spelling_of_markup? found).1.symm
  | case2 => rfl
  | case3 c rest absent ih =>
    rw [List.flatMap_cons, ih, Token.literal]
    split
    · next brace =>
      rw [brace]
      rfl
    · rfl

/-! ### Parts of a text -/

/-- A character that no markup goes on with. -/
def IsNeutral (c : Char) : Prop :=
  c ∉ special ∧ c ≠ '\x7b' ∧ c ≠ ':' ∧ c.isDigit = false

instance (c : Char) : Decidable (IsNeutral c) :=
  inferInstanceAs (Decidable (_ ∧ _))

section Neutral

variable {c : Char} (neutral : IsNeutral c) (rest : List Char)
include neutral

theorem digits?_append (text : List Char) :
    digits? (text ++ c :: rest) =
      (digits? text).map fun (digits, following) => (digits, following ++ c :: rest) := by
  obtain ⟨run, left⟩ : (text ++ c :: rest).takeWhile Char.isDigit = text.takeWhile Char.isDigit ∧
      (text ++ c :: rest).dropWhile Char.isDigit = text.dropWhile Char.isDigit ++ c :: rest := by
    induction text with
    | nil => simp [neutral.2.2.2]
    | cons d text ih =>
      by_cases digit : d.isDigit = true
      · simp [digit, ih]
      · simp [digit]
  unfold digits?
  rw [run, left]
  split
  · rfl
  · rfl

theorem opening?_append (text : List Char) :
    opening? (text ++ c :: rest) =
      (opening? text).map fun (token, following) => (token, following ++ c :: rest) := by
  unfold opening?
  rw [digits?_append neutral]
  cases digits? text with
  | none => rfl
  | some numbered =>
    obtain ⟨digits, following⟩ := numbered
    cases following with
    | nil =>
      have colon : c ≠ ':' := neutral.2.2.1
      simp [colon]
    | cons d following =>
      by_cases colon : d = ':'
      · subst colon
        rfl
      · simp [colon]

theorem stop?_append (text : List Char) :
    stop? (text ++ c :: rest) =
      (stop? text).map fun (token, following) => (token, following ++ c :: rest) := by
  cases text with
  | nil =>
    have brace : c ≠ '\x7b' := neutral.2.1
    have digit : c.isDigit = false := neutral.2.2.2
    simp [stop?, digits?, brace, digit]
  | cons d text =>
    by_cases brace : d = '\x7b'
    · subst brace
      exact opening?_append neutral rest text
    · have numbered := digits?_append neutral rest (d :: text)
      rw [List.cons_append] at numbered
      simp [stop?, brace, numbered, Function.comp_def]

/-- Markup ends before a neutral character. -/
theorem markup?_append (text : List Char) :
    markup? (text ++ c :: rest) =
      (markup? text).map fun (token, following) => (token, following ++ c :: rest) := by
  have ordinary := ne_of_not_special neutral.1
  cases text with
  | nil => simp [markup?, ordinary]
  | cons d text =>
    by_cases backslash : d = '\\'
    · subst backslash
      cases text with
      | nil => simp [markup?, escaped?, neutral.1]
      | cons e text =>
        by_cases takes : e ∈ special
        · simp [markup?, escaped?, takes]
        · simp [markup?, escaped?, takes]
    · by_cases dollar : d = '$'
      · subst dollar
        simp [markup?, stop?_append neutral]
      · simp [markup?, backslash, dollar]

/-- A text is cut at each of its neutral characters. -/
theorem tokens_append (text : List Char) :
    tokens (text ++ c :: rest) = tokens text ++ .plain c :: tokens rest := by
  fun_induction tokens text with
  | case1 text token following found ih =>
    have longer : markup? (text ++ c :: rest) = some (token, following ++ c :: rest) := by
      rw [markup?_append neutral, found]
      rfl
    rw [tokens_of_markup? longer, ih, List.cons_append]
  | case2 =>
    have absent : markup? (c :: rest) = none := markup?_append neutral rest []
    have brace : c ≠ '\x7d' := by
      rintro rfl
      exact neutral.1 (by decide)
    rw [List.nil_append, tokens_cons absent, Token.literal, if_neg brace, List.nil_append]
  | case3 d following absent ih =>
    have longer : markup? (d :: (following ++ c :: rest)) = none := by
      rw [← List.cons_append, markup?_append neutral, absent]
      rfl
    rw [List.cons_append, tokens_cons longer, ih, List.cons_append]

end Neutral

/-! ### Texts without markup -/

/-- No part of the text begins an escape or a stop. -/
def IsLiteral (text : List Char) : Prop :=
  ∀ tail ∈ text.tails, markup? tail = none

instance (text : List Char) : Decidable (IsLiteral text) :=
  inferInstanceAs (Decidable (∀ tail ∈ text.tails, markup? tail = none))

/-- Characters that are not typed on account of some tokens. -/
def overhead : List Token → Nat
  | [] => 0
  | token :: rest => token.overhead + overhead rest

@[simp] theorem overhead_nil : overhead [] = 0 := rfl

@[simp] theorem overhead_cons (token : Token) (rest : List Token) :
    overhead (token :: rest) = token.overhead + overhead rest := rfl

@[simp] theorem overhead_append (first second : List Token) :
    overhead (first ++ second) = overhead first + overhead second := by
  induction first with
  | nil => simp
  | cons token rest ih => rw [List.cons_append, overhead_cons, ih, overhead_cons, Nat.add_assoc]

theorem overhead_eq_zero_iff {written : List Token} :
    overhead written = 0 ↔ ∀ token ∈ written, token.overhead = 0 := by
  induction written with
  | nil => simp
  | cons token rest ih => rw [overhead_cons, Nat.add_eq_zero_iff, ih, List.forall_mem_cons]

theorem isLiteral_cons {c : Char} {rest : List Char} :
    IsLiteral (c :: rest) ↔ markup? (c :: rest) = none ∧ IsLiteral rest := by
  rw [IsLiteral, List.tails_cons, List.forall_mem_cons]
  rfl

theorem isLiteral_of_forall {text : List Char} (plain : ∀ c ∈ text, c ≠ '\\' ∧ c ≠ '$') :
    IsLiteral text := by
  induction text with
  | nil =>
    intro tail member
    obtain rfl := List.mem_singleton.mp member
    rfl
  | cons c rest ih =>
    obtain ⟨first, later⟩ := List.forall_mem_cons.mp plain
    refine isLiteral_cons.mpr ⟨?_, ih later⟩
    rw [markup?, if_neg first.1, if_neg first.2]

theorem tokens_of_isLiteral {text : List Char} (literal : IsLiteral text) :
    tokens text = text.map .literal := by
  induction text with
  | nil => exact tokens_nil
  | cons c rest ih =>
    obtain ⟨absent, later⟩ := isLiteral_cons.mp literal
    rw [tokens_cons absent, ih later, List.map_cons]

/-- All of a text is typed only if nothing in it is markup. -/
theorem isLiteral_of_overhead {text : List Char} (typed : overhead (tokens text) = 0) :
    IsLiteral text := by
  fun_induction tokens text with
  | case1 text token rest found ih =>
    have positive := (spelling_of_markup? found).2
    rw [overhead_cons] at typed
    omega
  | case2 =>
    intro tail member
    obtain rfl := List.mem_singleton.mp member
    rfl
  | case3 c rest absent ih =>
    rw [overhead_cons] at typed
    exact isLiteral_cons.mpr ⟨absent, ih (by omega)⟩

/-! ## Reading -/

/-- A stop of a snippet: its number, where it is in the text that is typed, and what is typed there
to be replaced. -/
structure TabStop where
  number : Nat
  offset : Nat
  placeholder : List Char
  deriving DecidableEq, Repr

/-- What an editor makes of a snippet: the text that it types, and the stops in it. -/
structure Reading where
  text : List Char
  stops : List TabStop
  deriving DecidableEq, Repr

/-- A reading under way. -/
structure Reader where
  text : List Char := []
  /-- Number and offset of the stops whose placeholder has not ended, innermost first. -/
  opened : List (Nat × Nat) := []
  stops : List TabStop := []
  deriving DecidableEq, Repr

namespace Reader

/-- Types some text. -/
def type (reader : Reader) (text : List Char) : Reader :=
  { reader with text := reader.text ++ text }

/-- Adds a stop. -/
def stopAt (reader : Reader) (stop : TabStop) : Reader :=
  { reader with stops := reader.stops ++ [stop] }

/-- Takes a token. A brace closes the innermost placeholder, and is typed where there is none. -/
def step (reader : Reader) : Token → Reader
  | .plain c | .escaped c => reader.type [c]
  | .stop digits => reader.stopAt ⟨Nat.ofDigitChars 10 digits 0, reader.text.length, []⟩
  | .opening digits =>
    let stop := (Nat.ofDigitChars 10 digits 0, reader.text.length)
    { reader with opened := stop :: reader.opened }
  | .closing =>
    match reader.opened with
    | [] => reader.type ['\x7d']
    | (number, offset) :: rest =>
      { reader with opened := rest }.stopAt ⟨number, offset, reader.text.drop offset⟩

def run (reader : Reader) (written : List Token) : Reader :=
  written.foldl step reader

/-- The reading that has come about, unless a placeholder has not ended. -/
def finish? (reader : Reader) : Option Reading :=
  if reader.opened = [] then some ⟨reader.text, reader.stops⟩ else none

end Reader

/-- The reading of a snippet; there is none if a placeholder does not end. -/
def read? (snippet : List Char) : Option Reading :=
  (({} : Reader).run (tokens snippet)).finish?

namespace Reader

@[simp] theorem run_nil (reader : Reader) : reader.run [] = reader := rfl

@[simp] theorem run_cons (reader : Reader) (token : Token) (rest : List Token) :
    reader.run (token :: rest) = (reader.step token).run rest := rfl

theorem run_append (reader : Reader) (first second : List Token) :
    reader.run (first ++ second) = (reader.run first).run second :=
  List.foldl_append

@[simp] theorem type_nil (reader : Reader) : reader.type [] = reader := by
  simp [type]

@[simp] theorem type_type (reader : Reader) (first second : List Char) :
    (reader.type first).type second = reader.type (first ++ second) := by
  simp [type]

/-! ### Every character is accounted for -/

/-- A placeholder that is still open owes its brace. -/
theorem length_step (reader : Reader) (token : Token) :
    (reader.step token).text.length + token.overhead + reader.opened.length =
      reader.text.length + token.spelling.length + (reader.step token).opened.length := by
  cases token with
  | plain c => simp [step, type, Token.overhead, Token.spelling]
  | escaped c => simp [step, type, Token.overhead, Token.spelling]
  | stop digits => simp [step, stopAt, Token.overhead, Token.spelling]
  | opening digits =>
    simp only [step, Token.overhead, Token.spelling, List.length_cons, List.length_append,
      List.length_nil]
    omega
  | closing =>
    unfold step
    cases opened : reader.opened with
    | nil => simp [type, opened, Token.overhead, Token.spelling]
    | cons stop rest =>
      simp only [stopAt, Token.overhead, Token.spelling, List.length_cons, List.length_nil]
      omega

theorem length_run (reader : Reader) (written : List Token) :
    (reader.run written).text.length + overhead written + reader.opened.length =
      reader.text.length + (written.flatMap Token.spelling).length +
        (reader.run written).opened.length := by
  induction written generalizing reader with
  | nil => simp
  | cons token rest ih =>
    have first := reader.length_step token
    have later := ih (reader.step token)
    simp only [run_cons, overhead_cons, List.flatMap_cons, List.length_append]
    omega

theorem finish?_eq_some_iff {reader : Reader} {reading : Reading} :
    reader.finish? = some reading ↔
      reader.opened = [] ∧ reader.text = reading.text ∧ reader.stops = reading.stops := by
  unfold finish?
  cases reading
  split
  · next closed => simp [closed]
  · next pending => simp [pending]

end Reader

/-- The characters of a snippet are those that are typed and those of its markup. -/
theorem length_of_read? {snippet : List Char} {reading : Reading}
    (read : read? snippet = some reading) :
    reading.text.length + overhead (tokens snippet) = snippet.length := by
  obtain ⟨closed, text, -⟩ := Reader.finish?_eq_some_iff.mp read
  have account := ({} : Reader).length_run (tokens snippet)
  rw [spelling_tokens, closed, text] at account
  simpa using account

/-! ### Text without markup -/

namespace Reader

/-- Outside of placeholders all of a text is typed. -/
theorem run_map_literal (reader : Reader) (outside : reader.opened = []) (text : List Char) :
    reader.run (text.map .literal) = reader.type text := by
  induction text generalizing reader with
  | nil => simp
  | cons c rest ih =>
    have typed : reader.step (.literal c) = reader.type [c] := by
      unfold Token.literal
      split
      · next brace => simp only [step, outside, brace]
      · rfl
    have later := ih (reader.type [c]) outside
    rw [List.map_cons, run_cons, typed, later, type_type, List.singleton_append]

/-- In a placeholder all of a text is typed up to its end. -/
theorem run_map_plain (reader : Reader) (text : List Char) :
    reader.run (text.map .plain) = reader.type text := by
  induction text generalizing reader with
  | nil => simp
  | cons c rest ih =>
    rw [List.map_cons, run_cons, ih]
    exact type_type reader [c] rest

/-- A placeholder ends at its first brace, and what follows that is typed behind it. -/
theorem run_opening (reader : Reader) (outside : reader.opened = []) (digits : List Char)
    {inner after : List Char} (unbraced : '\x7d' ∉ inner) :
    reader.run (.opening digits :: (inner ++ '\x7d' :: after).map .literal) =
      ((reader.type inner).stopAt
        ⟨Nat.ofDigitChars 10 digits 0, reader.text.length, inner⟩).type after := by
  have plain : inner.map Token.literal = inner.map Token.plain := by
    refine List.map_congr_left fun c member => if_neg ?_
    rintro rfl
    exact unbraced member
  have brace : Token.literal '\x7d' = .closing := rfl
  rw [run_cons, List.map_append, plain, run_append, run_map_plain, List.map_cons, run_cons, brace]
  have closed : ((reader.step (.opening digits)).type inner).step .closing =
      (reader.type inner).stopAt ⟨Nat.ofDigitChars 10 digits 0, reader.text.length, inner⟩ := by
    simp [step, type, stopAt]
  rw [closed]
  generalize (⟨_, _, inner⟩ : TabStop) = stop
  have still : ((reader.type inner).stopAt stop).opened = [] := outside
  exact run_map_literal _ still after

end Reader

end CodeBridge.Snippet

import CodeBridge.Proofs.Completion.Snippet
import CodeBridge.Request.Completion

/-! # Calls of methods as snippets

The snippet for a method is its name and a tab stop for each parameter. It is put together from names
as they are, so an editor reads markup in it that a name happens to hold. `IsLiteral` and
`IsPlaceholder` say which names are free of that where they stand, and the snippet reads as the call
exactly when all names are.

That they have to be is a matter of length. A call is as long as its names and their separators, and
each character of a snippet is typed or is markup, so nothing is left for markup within the names.
-/

namespace CodeBridge

namespace Snippet

/-! ## Calls -/

/-- Parts with a comma and a blank between them. -/
def separated (parts : List (List Char)) : List Char :=
  [',', ' '].intercalate parts

/-- A text that a placeholder holds as it is: the brace behind it is the first one, and nothing before
that is markup. -/
def IsPlaceholder (text : List Char) : Prop :=
  '\x7d' ∉ text ∧ IsLiteral (text ++ ['\x7d'])

instance (text : List Char) : Decidable (IsPlaceholder text) :=
  inferInstanceAs (Decidable (_ ∧ _))

theorem isPlaceholder_of_forall {text : List Char} (plain : ∀ c ∈ text, c ∉ special) :
    IsPlaceholder text := by
  refine ⟨fun member => plain _ member (by decide), isLiteral_of_forall fun c member => ?_⟩
  rw [List.mem_append, List.mem_singleton] at member
  obtain inside | rfl := member
  · exact ne_of_not_special (plain c inside)
  · decide

/-- What is told of a stop apart from its place. -/
def TabStop.label (stop : TabStop) : List Char × Nat :=
  (stop.placeholder, stop.number)

/-- A call with a stop for each parameter, numbered from one, and the last stop behind it. -/
structure Reading.IsCall (reading : Reading) (name : List Char) (parameters : List (List Char)) :
    Prop where
  text : reading.text = name ++ '(' :: separated parameters ++ [')']
  labels : reading.stops.map TabStop.label = parameters.zipIdx 1 ++ [([], 0)]
  last : reading.stops.getLast?.map TabStop.offset = some reading.text.length

/-- An editor makes a call of a snippet. -/
def ReadsAsCall (snippet name : List Char) (parameters : List (List Char)) : Prop :=
  ∃ reading, read? snippet = some reading ∧ reading.IsCall name parameters

/-! ## Tokens of a call -/

/-- How a placeholder and its number are written. -/
def stopText (argument : List Char × Nat) : List Char :=
  '$' :: '\x7b' :: Nat.toDigits 10 argument.2 ++ ':' :: (argument.1 ++ ['\x7d'])

def stopTokens (argument : List Char × Nat) : List Token :=
  .opening (Nat.toDigits 10 argument.2) :: tokens (argument.1 ++ ['\x7d'])

/-- How a call is written, given its placeholders with their numbers. -/
def callText (name : List Char) (arguments : List (List Char × Nat)) : List Char :=
  name ++ '(' :: (separated (arguments.map stopText) ++ ')' :: ['$', '0'])

/-- Token lists with a comma and a blank between them. -/
def separatedTokens (parts : List (List Token)) : List Token :=
  [.plain ',', .plain ' '].intercalate parts

theorem digits?_append_colon {digits rest : List Char} (present : digits ≠ [])
    (numeric : ∀ d ∈ digits, d.isDigit = true) :
    digits? (digits ++ ':' :: rest) = some (digits, ':' :: rest) := by
  have run : (digits ++ ':' :: rest).takeWhile Char.isDigit = digits := by
    rw [List.takeWhile_append_of_pos numeric]
    exact List.append_nil _
  have left : (digits ++ ':' :: rest).dropWhile Char.isDigit = ':' :: rest :=
    List.dropWhile_append_of_pos numeric
  unfold digits?
  rw [run, left]
  split
  · contradiction
  · rfl

theorem tokens_stopText (argument : List Char × Nat) :
    tokens (stopText argument) = stopTokens argument := by
  have numeric : ∀ d ∈ Nat.toDigits 10 argument.2, d.isDigit = true := fun _ member =>
    Nat.isDigit_of_mem_toDigits (by decide) (by decide) member
  have found : markup? (stopText argument) =
      some (.opening (Nat.toDigits 10 argument.2), argument.1 ++ ['\x7d']) := by
    show opening? (Nat.toDigits 10 argument.2 ++ ':' :: (argument.1 ++ ['\x7d'])) = _
    rw [opening?, digits?_append_colon Nat.toDigits_ne_nil numeric]
    rfl
  exact tokens_of_markup? found

theorem tokens_separated (parts : List (List Char)) :
    tokens (separated parts) = separatedTokens (parts.map tokens) := by
  unfold separated separatedTokens
  induction parts with
  | nil => exact tokens_nil
  | cons first rest ih =>
    cases rest with
    | nil => simp
    | cons second rest =>
      have comma : IsNeutral ',' := by decide
      have blank : IsNeutral ' ' := by decide
      have unseparated := tokens_append blank ([',', ' '].intercalate (second :: rest)) []
      rw [List.nil_append, tokens_nil, List.nil_append] at unseparated
      rw [List.intercalate_cons_cons, List.append_assoc, List.cons_append, List.cons_append,
        List.nil_append, tokens_append comma, unseparated, ih]
      simp [List.intercalate_cons_cons]

theorem tokens_callText (name : List Char) (arguments : List (List Char × Nat)) :
    tokens (callText name arguments) = tokens name ++ .plain '(' ::
      (separatedTokens (arguments.map stopTokens) ++ .plain ')' :: [.stop ['0']]) := by
  have bracket : IsNeutral '(' := by decide
  have closing : IsNeutral ')' := by decide
  have final : tokens ['$', '0'] = [.stop ['0']] := by
    have found : markup? ['$', '0'] = some (.stop ['0'], []) := by decide
    rw [tokens_of_markup? found, tokens_nil]
  have stops : tokens ∘ stopText = stopTokens := funext tokens_stopText
  rw [callText, tokens_append bracket, tokens_append closing, tokens_separated, List.map_map, final,
    stops]

/-! ## Names hold no markup -/

/-- What a placeholder takes beyond its number and its braces is taken from its text. -/
theorem length_stopText (argument : List Char × Nat) :
    (stopText argument).length + overhead (tokens (argument.1 ++ ['\x7d'])) =
      argument.1.length + overhead (stopTokens argument) := by
  simp only [stopText, stopTokens, overhead_cons, Token.overhead, List.length_append,
    List.length_cons, List.length_nil]
  omega

theorem length_separated (arguments : List (List Char × Nat)) :
    (separated (arguments.map stopText)).length +
        overhead (arguments.flatMap fun argument => tokens (argument.1 ++ ['\x7d'])) =
      (separated (arguments.map Prod.fst)).length +
        overhead (separatedTokens (arguments.map stopTokens)) := by
  unfold separated separatedTokens
  induction arguments with
  | nil => rfl
  | cons first rest ih =>
    have this := length_stopText first
    cases rest with
    | nil => simpa using this
    | cons second rest =>
      simp only [List.map_cons, List.intercalate_cons_cons, List.length_append, List.length_cons,
        List.length_nil, overhead_append, overhead_cons, overhead_nil, Token.overhead,
        List.flatMap_cons] at ih ⊢
      omega

/-- A snippet that types no more and no less than the call has no markup in its names. -/
theorem isLiteral_of_text {name : List Char} {arguments : List (List Char × Nat)}
    {reading : Reading} (read : read? (callText name arguments) = some reading)
    (text : reading.text = name ++ '(' :: separated (arguments.map Prod.fst) ++ [')']) :
    IsLiteral name ∧ ∀ argument ∈ arguments, IsLiteral (argument.1 ++ ['\x7d']) := by
  have length := length_of_read? read
  have account := length_separated arguments
  rw [tokens_callText, text] at length
  simp only [callText, overhead_append, overhead_cons, overhead_nil, Token.overhead,
    List.length_append, List.length_cons, List.length_nil] at length
  have within : overhead (arguments.flatMap fun argument => tokens (argument.1 ++ ['\x7d'])) = 0 := by
    omega
  refine ⟨isLiteral_of_overhead (by omega), fun argument member => ?_⟩
  refine isLiteral_of_overhead (overhead_eq_zero_iff.mpr fun token listed => ?_)
  exact overhead_eq_zero_iff.mp within token (List.mem_flatMap.mpr ⟨argument, member, listed⟩)

/-! ## Reading a call -/

/-- What a placeholder holds of a text that is written into it: all up to the first brace. -/
def held (text : List Char) : List Char :=
  (text ++ ['\x7d']).takeWhile (· ≠ '\x7d')

theorem takeWhile_unbraced {inner : List Char} (unbraced : '\x7d' ∉ inner) (after : List Char) :
    (inner ++ '\x7d' :: after).takeWhile (· ≠ '\x7d') = inner := by
  have before : ∀ c ∈ inner, decide (c ≠ '\x7d') = true := by
    intro c member
    refine decide_eq_true ?_
    rintro rfl
    exact unbraced member
  rw [List.takeWhile_append_of_pos before]
  exact List.append_nil inner

theorem held_eq_self_iff {text : List Char} : held text = text ↔ '\x7d' ∉ text := by
  refine ⟨fun all member => ?_, fun unbraced => takeWhile_unbraced unbraced []⟩
  rw [← all] at member
  have other := List.all_eq_true.mp List.all_takeWhile _ member
  exact of_decide_eq_true other rfl

theorem map_held_eq_self_iff {arguments : List (List Char × Nat)} :
    arguments.map (fun argument => (held argument.1, argument.2)) = arguments ↔
      ∀ argument ∈ arguments, '\x7d' ∉ argument.1 := by
  induction arguments with
  | nil => simp
  | cons first rest ih =>
    rw [List.map_cons, List.cons.injEq, ih, List.forall_mem_cons, Prod.ext_iff, held_eq_self_iff]
    simp

namespace Reader

/-- What is told of the stops so far. -/
def labels (reader : Reader) : List (List Char × Nat) :=
  reader.stops.map TabStop.label

@[simp] theorem labels_type (reader : Reader) (text : List Char) :
    (reader.type text).labels = reader.labels := rfl

@[simp] theorem labels_stopAt (reader : Reader) (stop : TabStop) :
    (reader.stopAt stop).labels = reader.labels ++ [stop.label] :=
  List.map_append

/-- What a reader has come to after some arguments, outside of placeholders again. The text is that
of the arguments only if no brace in them ends a placeholder early. -/
structure Passed (reader : Reader) (arguments : List (List Char × Nat)) (next : Reader) :
    Prop where
  outside : next.opened = []
  labels : next.labels = reader.labels ++ arguments.map fun argument => (held argument.1, argument.2)
  text : (∀ argument ∈ arguments, '\x7d' ∉ argument.1) →
    next.text = reader.text ++ separated (arguments.map Prod.fst)

variable {reader : Reader} (outside : reader.opened = [])
include outside

theorem run_stopTokens {argument : List Char × Nat} (literal : IsLiteral (argument.1 ++ ['\x7d'])) :
    reader.Passed [argument] (reader.run (stopTokens argument)) := by
  -- The first brace may be one of the text itself; what follows it is typed behind the stop.
  have braced : '\x7d' ∈ argument.1 ++ ['\x7d'] := List.mem_append_right _ List.mem_cons_self
  obtain ⟨inner, after, split, unbraced⟩ := List.eq_append_cons_of_mem braced
  have same : held argument.1 = inner := by
    rw [held, split, takeWhile_unbraced unbraced]
  rw [stopTokens, tokens_of_isLiteral literal, split, run_opening reader outside _ unbraced,
    Nat.ofDigitChars_ten_toDigits]
  refine ⟨outside, ?_, fun whole => ?_⟩
  · simp [TabStop.label, same]
  · have all := held_eq_self_iff.mpr (whole argument List.mem_cons_self)
    rw [same.symm.trans all] at split ⊢
    obtain rfl : [] = after := List.tail_eq_of_cons_eq (List.append_cancel_left split)
    simp [type, stopAt, separated]

/-- Each argument in its turn. -/
theorem run_separatedTokens {arguments : List (List Char × Nat)}
    (literal : ∀ argument ∈ arguments, IsLiteral (argument.1 ++ ['\x7d'])) :
    reader.Passed arguments (reader.run (separatedTokens (arguments.map stopTokens))) := by
  induction arguments generalizing reader with
  | nil => exact ⟨outside, by simp [separatedTokens], fun _ => by simp [separatedTokens, separated]⟩
  | cons first rest ih =>
    obtain ⟨this, later⟩ := List.forall_mem_cons.mp literal
    have passed := run_stopTokens outside this
    cases rest with
    | nil => simpa [separatedTokens] using passed
    | cons second rest =>
      have next : reader.run (separatedTokens ((first :: second :: rest).map stopTokens)) =
          ((reader.run (stopTokens first)).type [',', ' ']).run
            (separatedTokens ((second :: rest).map stopTokens)) := by
        rw [List.map_cons, List.map_cons, separatedTokens, List.intercalate_cons_cons, run_append,
          run_append]
        exact congrArg (run · _) (type_type (reader.run (stopTokens first)) [','] [' '])
      have between : ((reader.run (stopTokens first)).type [',', ' ']).opened = [] := passed.outside
      have remaining := ih between later
      rw [next]
      refine ⟨remaining.outside, ?_, fun unbraced => ?_⟩
      · rw [remaining.labels, labels_type, passed.labels, List.append_assoc, ← List.map_append,
          List.singleton_append]
      · obtain ⟨ended, unended⟩ := List.forall_mem_cons.mp unbraced
        rw [remaining.text unended, type, passed.text (List.forall_mem_singleton.mpr ended)]
        simp [separated, List.intercalate_cons_cons]

end Reader

section Call

variable {name : List Char} {arguments : List (List Char × Nat)} (literal : IsLiteral name)
  (literals : ∀ argument ∈ arguments, IsLiteral (argument.1 ++ ['\x7d']))
include literal literals

/-- Outside of placeholders the reader comes to the arguments, and behind them it is so again. -/
theorem run_callText :
    ∃ behind, (({} : Reader).type (name ++ ['('])).Passed arguments behind ∧
      ({} : Reader).run (tokens (callText name arguments)) =
        (behind.type [')']).stopAt ⟨0, (behind.type [')']).text.length, []⟩ := by
  refine ⟨_, Reader.run_separatedTokens rfl literals, ?_⟩
  have typed := ({} : Reader).run_map_literal rfl name
  rw [tokens_callText, tokens_of_isLiteral literal, Reader.run_append, typed, Reader.run_cons,
    Reader.run_append]
  rfl

/-- Names without markup are read, whether or not a brace ends a placeholder early. -/
theorem exists_read?_callText :
    ∃ reading, read? (callText name arguments) = some reading ∧
      reading.stops.map TabStop.label =
        arguments.map (fun argument => (held argument.1, argument.2)) ++ [([], 0)] ∧
      reading.stops.getLast?.map TabStop.offset = some reading.text.length ∧
      ((∀ argument ∈ arguments, '\x7d' ∉ argument.1) →
        reading.text = name ++ '(' :: separated (arguments.map Prod.fst) ++ [')']) := by
  obtain ⟨behind, passed, reached⟩ := run_callText literal literals
  let final := (behind.type [')']).stopAt ⟨0, (behind.type [')']).text.length, []⟩
  have finished : final.finish? = some ⟨final.text, final.stops⟩ :=
    Reader.finish?_eq_some_iff.mpr ⟨passed.outside, rfl, rfl⟩
  have read : read? (callText name arguments) = some ⟨final.text, final.stops⟩ :=
    (congrArg Reader.finish? reached).trans finished
  have labels : final.labels = behind.labels ++ [([], 0)] :=
    Reader.labels_stopAt (behind.type [')']) _
  refine ⟨_, read, labels.trans (congrArg (· ++ _) passed.labels), ?_, fun unbraced => ?_⟩
  · simp [final, Reader.stopAt]
  · have text : final.text = behind.text ++ [')'] := rfl
    rw [text, passed.text unbraced]
    simp [Reader.type]

end Call

/-- The snippet reads as the call exactly when no name has markup where it stands. -/
theorem readsAsCall_callText_iff (name : List Char) (parameters : List (List Char)) :
    ReadsAsCall (callText name (parameters.zipIdx 1)) name parameters ↔
      IsLiteral name ∧ ∀ parameter ∈ parameters, IsPlaceholder parameter := by
  have names : (parameters.zipIdx 1).map Prod.fst = parameters := List.zipIdx_map_fst 1 parameters
  have numbered : (∀ parameter ∈ (parameters.zipIdx 1).map Prod.fst, IsPlaceholder parameter) ↔
      ∀ argument ∈ parameters.zipIdx 1, IsPlaceholder argument.1 := List.forall_mem_map
  rw [names] at numbered
  rw [numbered]
  constructor
  · -- The length of the text rules out markup, and then the labels rule out braces.
    rintro ⟨reading, read, call⟩
    obtain ⟨literal, literals⟩ := isLiteral_of_text read (by rw [names]; exact call.text)
    obtain ⟨reading', read', labels, -, -⟩ := exists_read?_callText literal literals
    obtain rfl : reading' = reading := Option.some.inj (read'.symm.trans read)
    have whole := List.append_cancel_right (labels.symm.trans call.labels)
    have unbraced := map_held_eq_self_iff.mp whole
    exact ⟨literal, fun argument listed => ⟨unbraced argument listed, literals argument listed⟩⟩
  · rintro ⟨literal, placeholders⟩
    have unbraced := fun argument listed => (placeholders argument listed).1
    have literals := fun argument listed => (placeholders argument listed).2
    obtain ⟨reading, read, labels, last, text⟩ := exists_read?_callText literal literals
    have typed := text unbraced
    rw [names] at typed
    rw [map_held_eq_self_iff.mpr unbraced] at labels
    exact ⟨reading, read, typed, labels, last⟩

end Snippet

/-! ## Methods in a completion list -/

namespace Completion

open Snippet

theorem toList_tabStop (number : Nat) (placeholder : String) :
    (tabStop number placeholder).toList = stopText (placeholder.toList, number) := by
  simp [tabStop, stopText, String.toList_append, Nat.toString_eq_repr, Nat.toList_repr]

theorem toList_snippetCall (name : String) (parameters : List Parameter) :
    (name ++ snippetCall parameters).toList =
      callText name.toList ((parameters.map (·.name.toList)).zipIdx 1) := by
  rw [List.zipIdx_map, List.zipIdx_succ]
  simp [snippetCall, commaSeparated, callText, separated, toList_tabStop, String.toList_append,
    String.toList_intercalate, Function.comp_def]

theorem readsAsCall_snippetCall_iff (name : String) (parameters : List Parameter) :
    ReadsAsCall (name ++ snippetCall parameters).toList name.toList
        (parameters.map (·.name.toList)) ↔
      IsLiteral name.toList ∧ ∀ text ∈ parameters.map (·.name.toList), IsPlaceholder text := by
  rw [toList_snippetCall, readsAsCall_callText_iff]

/-- With snippets, the entry of a method reads as a call of it, by its own name or else its label,
exactly when no name has markup where it stands. So it does whenever neither the name nor a parameter
has a character that a backslash would take the meaning from. -/
theorem method_reads_as_call_iff (rawLabel name : String) (parameters : List Parameter)
    (returnType doc : Option String) :
    let shown := (if name = "" then rawLabel else name).toList
    let names := parameters.map (·.name.toList)
    ∃ item, item? true ⟨rawLabel, .method name parameters returnType doc⟩ = some item ∧
      item.insertFormat = .snippet ∧
      (ReadsAsCall item.insertText.toList shown names ↔
        IsLiteral shown ∧ ∀ name ∈ names, IsPlaceholder name) ∧
      ((∀ text ∈ shown :: names, ∀ c ∈ text, c ∉ special) →
        ReadsAsCall item.insertText.toList shown names) := by
  intro shown names
  have called : (nameOr rawLabel name).toList = shown := by
    simp only [nameOr, String.isEmpty_iff, shown]
  have reads := readsAsCall_snippetCall_iff (nameOr rawLabel name) parameters
  rw [called] at reads
  refine ⟨_, rfl, rfl, reads, fun plain => reads.mpr ?_⟩
  obtain ⟨first, others⟩ := List.forall_mem_cons.mp plain
  have unmarked : IsLiteral shown :=
    isLiteral_of_forall fun c member => ne_of_not_special (first c member)
  exact ⟨unmarked, fun name member => isPlaceholder_of_forall (others name member)⟩

/-- A method of two parameters and without a name of its own. -/
theorem method_reads_as_call_plain :
    ∃ item, item? true ⟨"put", .method "" [⟨"int", "index"⟩, ⟨"T", "value"⟩] none none⟩ =
        some item ∧ item.insertFormat = .snippet ∧
      ReadsAsCall item.insertText.toList "put".toList ["index".toList, "value".toList] := by
  obtain ⟨item, shown, format, -, reads⟩ :=
    method_reads_as_call_iff "put" "" [⟨"int", "index"⟩, ⟨"T", "value"⟩] none none
  exact ⟨item, shown, format, reads (by simp [special])⟩

/-- The number in the name of a method is taken for a stop, and is not typed. -/
theorem method_number_in_name :
    ∃ item, item? true ⟨"access$100", .method "access$100" [] none none⟩ = some item ∧
      item.insertFormat = .snippet ∧
      read? item.insertText.toList = some ⟨"access()".toList, [⟨100, 6, []⟩, ⟨0, 8, []⟩]⟩ ∧
      ¬ReadsAsCall item.insertText.toList "access$100".toList [] := by
  have stop : read? "access$100()$0".toList =
      some ⟨"access()".toList, [⟨100, 6, []⟩, ⟨0, 8, []⟩]⟩ := by decide +kernel
  refine ⟨_, rfl, rfl, stop, ?_⟩
  rintro ⟨reading, read, call⟩
  obtain rfl := Option.some.inj (stop.symm.trans read)
  exact absurd call.text (by decide)

end Completion

end CodeBridge

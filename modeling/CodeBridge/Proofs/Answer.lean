/-! # Answers that may fail

Two ways to speak about an answer without following every path that leads to it. `Meets` says what
its value and its failure can be. `Degrades` compares it with the answer that a fully working engine
gives: either it fails with an error that is known to pass, or it is that answer.

Both are kept when one step of a request follows another, so a request inherits them from the
questions that it asks.
-/

namespace CodeBridge

variable {ε ε' α β : Type}

@[simp] theorem ok_bind (value : α) (rest : α → Except ε β) :
    (Except.ok value >>= rest) = rest value := rfl

@[simp] theorem error_bind (error : ε) (rest : α → Except ε β) :
    (Except.error error >>= rest) = .error error := rfl

/-- Two steps succeed if the first does and the second does with its value. -/
theorem bind_eq_ok_iff {answer : Except ε α} {rest : α → Except ε β} {result : β} :
    (answer >>= rest) = .ok result ↔ ∃ value, answer = .ok value ∧ rest value = .ok result := by
  cases answer with
  | ok value => simp
  | error error => simp

theorem map_eq_ok_iff {answer : Except ε α} {change : α → β} {result : β} :
    answer.map change = .ok result ↔ ∃ value, answer = .ok value ∧ change value = result := by
  cases answer with
  | ok value => simp [Except.map]
  | error error => simp [Except.map]

theorem map_eq_error_iff {answer : Except ε α} {change : α → β} {error : ε} :
    answer.map change = .error error ↔ answer = .error error := by
  cases answer with
  | ok value => simp [Except.map]
  | error other => simp [Except.map]

/-- What follows an answer only matters for the value that the answer has. -/
theorem bind_congr_of_ok {answer : Except ε α} {rest rest' : α → Except ε β}
    (same : ∀ value, answer = .ok value → rest value = rest' value) :
    (answer >>= rest) = (answer >>= rest') := by
  cases answer with
  | ok value => exact same value rfl
  | error error => rfl

theorem mapM_congr_of_mem {step step' : α → Except ε β} {items : List α}
    (same : ∀ item ∈ items, step item = step' item) : items.mapM step = items.mapM step' := by
  induction items with
  | nil => rfl
  | cons item rest ih =>
    rw [List.mapM_cons, List.mapM_cons, same item List.mem_cons_self,
      ih fun other member => same other (List.mem_cons_of_mem _ member)]

/-! ## What an answer can be -/

/-- The value of an answer satisfies `success`, and its error satisfies `failure`. -/
def Meets (failure : ε → Prop) (success : α → Prop) : Except ε α → Prop
  | .ok value => success value
  | .error error => failure error

namespace Meets

variable {failure : ε → Prop} {success : α → Prop} {answer : Except ε α}

theorem mono {failure' : ε → Prop} {success' : α → Prop} (meets : Meets failure success answer)
    (fails : ∀ error, failure error → failure' error)
    (succeeds : ∀ value, success value → success' value) : Meets failure' success' answer := by
  cases answer with
  | ok value => exact succeeds value meets
  | error error => exact fails error meets

theorem bind {success' : β → Prop} {rest : α → Except ε β} (meets : Meets failure success answer)
    (continues : ∀ value, success value → Meets failure success' (rest value)) :
    Meets failure success' (answer >>= rest) := by
  cases answer with
  | ok value => exact continues value meets
  | error error => exact meets

theorem map {success' : β → Prop} {change : α → β} (meets : Meets failure success answer)
    (carries : ∀ value, success value → success' (change value)) :
    Meets failure success' (answer.map change) := by
  cases answer with
  | ok value => exact carries value meets
  | error error => exact meets

theorem mapError {failure' : ε' → Prop} {translate : ε → ε'} (meets : Meets failure success answer)
    (carries : ∀ error, failure error → failure' (translate error)) :
    Meets failure' success (answer.mapError translate) := by
  cases answer with
  | ok value => exact meets
  | error error => exact carries error meets

/-- If each step of a list succeeds or fails as it should, so does the whole list. -/
theorem mapM {success' : β → Prop} {step : α → Except ε β} {items : List α}
    (each : ∀ item ∈ items, Meets failure success' (step item)) :
    Meets failure (fun results => ∀ result ∈ results, success' result) (items.mapM step) := by
  induction items with
  | nil => exact List.forall_mem_nil _
  | cons item items ih =>
    rw [List.mapM_cons]
    refine bind (each item List.mem_cons_self) fun result first => ?_
    refine bind (ih fun other member => each other (List.mem_cons_of_mem _ member)) ?_
    intro results rest
    exact List.forall_mem_cons.mpr ⟨first, rest⟩

end Meets

/-- Every result of a list of steps is that of one of the steps. -/
theorem exists_of_mapM_eq_ok {step : α → Except ε β} {items : List α} {results : List β}
    (success : items.mapM step = .ok results) {result : β} (member : result ∈ results) :
    ∃ item ∈ items, step item = .ok result := by
  have each : ∀ item ∈ items, Meets (fun _ => True)
      (fun result => ∃ item ∈ items, step item = .ok result) (step item) := by
    intro item listed
    cases answer : step item with
    | ok result => exact ⟨item, listed, answer⟩
    | error error => trivial
  have all := Meets.mapM each
  rw [success] at all
  exact all result member

/-- If each step of a list succeeds, the result is the list of their values. -/
theorem mapM_eq_ok_map {step : α → Except ε β} {value : α → β} {items : List α}
    (each : ∀ item ∈ items, step item = .ok (value item)) :
    items.mapM step = .ok (items.map value) := by
  induction items with
  | nil => rfl
  | cons item rest ih =>
    rw [List.mapM_cons, each item List.mem_cons_self, ok_bind,
      ih fun other member => each other (List.mem_cons_of_mem _ member)]
    rfl

/-! ## Answers of an engine that is not ready -/

/-- An answer that fails with a passing error, or that is the full answer. -/
def Degrades (passing : ε → Prop) (degraded full : Except ε α) : Prop :=
  (∃ error, passing error ∧ degraded = .error error) ∨ degraded = full

namespace Degrades

variable {passing : ε → Prop} {degraded full : Except ε α}

theorem refl (passing : ε → Prop) (answer : Except ε α) : Degrades passing answer answer :=
  .inr rfl

/-- The steps after a full answer may degrade again; those after a failure are not taken. -/
theorem bind {rest rest' : α → Except ε β} (degrades : Degrades passing degraded full)
    (continues : ∀ value, Degrades passing (rest value) (rest' value)) :
    Degrades passing (degraded >>= rest) (full >>= rest') := by
  rcases degrades with ⟨error, passes, rfl⟩ | rfl
  · exact .inl ⟨error, passes, rfl⟩
  · cases degraded with
    | ok value => exact continues value
    | error error => exact .inr rfl

theorem mapError {passing' : ε' → Prop} {translate : ε → ε'}
    (degrades : Degrades passing degraded full)
    (carries : ∀ error, passing error → passing' (translate error)) :
    Degrades passing' (degraded.mapError translate) (full.mapError translate) := by
  rcases degrades with ⟨error, passes, rfl⟩ | rfl
  · exact .inl ⟨translate error, carries error passes, rfl⟩
  · exact .inr rfl

theorem mapM {step step' : α → Except ε β}
    (each : ∀ item, Degrades passing (step item) (step' item)) (items : List α) :
    Degrades passing (items.mapM step) (items.mapM step') := by
  induction items with
  | nil => exact .refl passing _
  | cons item items ih =>
    rw [List.mapM_cons, List.mapM_cons]
    exact bind (each item) fun result => bind ih fun results => .refl passing _

end Degrades

end CodeBridge

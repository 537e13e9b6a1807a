/-! # Runs between marks

A text cut at the characters that are marks, which belong to no run. Two marks side by side have an
empty run between them, and a mark at an end has one beside it.

Main statement: the runs with the mark between them are the text again.
-/

namespace CodeBridge.Text

/-- The runs between the characters that satisfy `isMark`. -/
def runs (isMark : Char → Bool) : List Char → List (List Char)
  | [] => [[]]
  | c :: cs =>
    if isMark c then [] :: runs isMark cs
    else
      match runs isMark cs with
      | [] => [[c]]
      | run :: rest => (c :: run) :: rest

theorem runs_ne_nil (isMark : Char → Bool) (cs : List Char) : runs isMark cs ≠ [] := by
  cases cs with
  | nil => simp [runs]
  | cons c cs =>
    unfold runs
    split
    · simp
    · split <;> simp

/-- Nothing but the marks is lost. -/
theorem intercalate_runs (mark : Char) (cs : List Char) :
    [mark].intercalate (runs (· == mark) cs) = cs := by
  induction cs with
  | nil => rfl
  | cons c cs ih =>
    obtain ⟨run, rest, shape⟩ := List.exists_cons_of_ne_nil (runs_ne_nil (· == mark) cs)
    rw [shape] at ih
    by_cases here : c = mark
    · simp [runs, here, shape, List.intercalate_cons_cons, ih]
    · cases rest <;> simp_all [runs, List.intercalate_cons_cons]

end CodeBridge.Text

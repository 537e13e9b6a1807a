import CodeBridge.Files.Path
import Mathlib.Data.List.Basic

/-! # The way up from a path

A path, its parent, the parent of that, and so on: `Path.up` counts the steps, and
`Path.ancestors` lists what they lead to. Parents are lexical, so the way up depends on how a path
is written, with its dots and its slashes.

A name is written behind the `stem` of a path, which is all of it but a slash at its end. Each step
up shortens the stem. So the way up has no more steps than the path has segments, and a file of one
name lies at another path in each directory on it.
-/

namespace CodeBridge.Path

/-- What is some steps up from a path. -/
def up (path : Path) : Nat → Option Path
  | 0 => some path
  | steps + 1 => (path.up steps).bind parent?

theorem up_add (path : Path) (steps further : Nat) :
    path.up (steps + further) = (path.up steps).bind (·.up further) := by
  induction further with
  | zero => exact (Option.bind_fun_some (path.up steps)).symm
  | succ further ih =>
    rw [← Nat.add_assoc, up, ih, Option.bind_assoc]
    rfl

theorem ancestors_eq_cons (path : Path) :
    path.ancestors = path :: (path.parent?.map ancestors).getD [] := by
  rw [ancestors]
  split
  · next above parent => rw [parent, Option.map_some, Option.getD_some]
  · next parent => rw [parent, Option.map_none, Option.getD_none]

theorem getElem?_ancestors (path : Path) (steps : Nat) :
    path.ancestors[steps]? = path.up steps := by
  induction steps generalizing path with
  | zero =>
    rw [ancestors_eq_cons]
    rfl
  | succ steps ih =>
    have first : path.up 1 = path.parent? := rfl
    rw [ancestors_eq_cons, List.getElem?_cons_succ, Nat.add_comm, up_add, first]
    cases path.parent? with
    | none => rfl
    | some above => exact ih above

theorem mem_ancestors_iff {path above : Path} :
    above ∈ path.ancestors ↔ ∃ steps, path.up steps = some above := by
  rw [List.mem_iff_getElem?]
  exact exists_congr fun steps => by rw [getElem?_ancestors]

/-! ## Stems -/

/-- The segments that a name is written behind: all but an empty one at the end. -/
def stem (path : Path) : List String :=
  if path.segments.getLast? = some "" then path.segments.dropLast else path.segments

theorem segments_join (path : Path) {name : Path} (relative : name.isAbsolute = false) :
    (path.join name).segments = path.stem ++ name.segments := by
  unfold join stem
  rw [if_neg (by simp [relative])]
  split
  · rfl
  · rfl

theorem length_stem_le (path : Path) : path.stem.length ≤ path.segments.length := by
  unfold stem
  split
  · rw [List.length_dropLast]
    exact Nat.sub_le ..
  · exact Nat.le_refl _

/-- The stem reaches over every segment that is not empty. -/
theorem lt_length_stem {path : Path} {front back : List String} {name : String}
    (cut : path.segments = front ++ name :: back) (named : name ≠ "") :
    front.length < path.stem.length := by
  unfold stem
  rw [cut]
  split
  · next slash =>
    have behind : back ≠ [] := by
      rintro rfl
      rw [List.getLast?_append_cons, List.getLast?_singleton] at slash
      exact named (Option.some.inj slash)
    have positive := List.length_pos_iff.mpr behind
    rw [List.length_dropLast, List.length_append, List.length_cons]
    omega
  · rw [List.length_append, List.length_cons]
    omega

theorem exists_name_of_trimEnd_ne_nil {segments : List String} (nonempty : trimEnd segments ≠ []) :
    ∃ name back, segments = (trimEnd segments).dropLast ++ name :: back ∧ name ≠ "" := by
  obtain ⟨back, whole⟩ := trimEnd_isFront segments
  refine ⟨(trimEnd segments).getLast nonempty, back, ?_, ?_⟩
  · rw [List.append_cons, List.dropLast_concat_getLast nonempty, whole]
  · intro idle
    have busy := isIdle_getLast_trimEnd nonempty
    rw [idle] at busy
    cases busy

/-- A parent ends before the last name of its path, whatever idle segments surround that name. -/
theorem length_stem_parent?_lt {path above : Path} (parent : path.parent? = some above) :
    above.stem.length < path.stem.length := by
  unfold parent? at parent
  split at parent
  · cases parent
  · next first rest segments =>
    split at parent
    · split at parent
      · cases parent
      · next named =>
        cases parent
        have cut : path.segments = [] ++ first :: rest := segments
        exact lt_length_stem cut named
    · next name names trimmed =>
      have nonempty : trimEnd rest ≠ [] := by simp [trimmed]
      obtain ⟨last, back, cut, named⟩ := exists_name_of_trimEnd_ne_nil nonempty
      rw [trimmed] at cut
      have below : (first :: (name :: names).dropLast).length < path.stem.length :=
        lt_length_stem (by rw [segments, cut]; rfl) named
      have front := (trimEnd_isFront (name :: names).dropLast).length_le
      rw [List.length_cons] at below
      split at parent
      · split at parent
        · cases parent
          have short : root.stem.length = 1 := by decide
          omega
        · cases parent
          have short := length_stem_le ⟨[first]⟩
          rw [List.length_singleton] at short
          omega
      · cases parent
        have short := length_stem_le ⟨first :: trimEnd (name :: names).dropLast⟩
        rw [List.length_cons] at short
        omega

theorem length_stem_up_add_le {path above : Path} {steps : Nat}
    (reached : path.up steps = some above) : above.stem.length + steps ≤ path.stem.length := by
  induction steps generalizing above with
  | zero =>
    cases reached
    exact Nat.le_refl _
  | succ steps ih =>
    obtain ⟨below, before, parent⟩ := Option.bind_eq_some_iff.mp reached
    have shorter := length_stem_parent?_lt parent
    have rest := ih before
    omega

/-- The way up ends: it has at most as many steps as the path has segments. -/
theorem steps_le_of_up_eq_some {path above : Path} {steps : Nat}
    (reached : path.up steps = some above) : steps ≤ path.segments.length := by
  have steep := length_stem_up_add_le reached
  have long := length_stem_le path
  omega

/-- Files of one name in two directories on the way up lie at different paths. -/
theorem join_ne_join_of_up {path lower higher name : Path} {steps further : Nat}
    (relative : name.isAbsolute = false) (before : steps < further)
    (below : path.up steps = some lower) (above : path.up further = some higher) :
    lower.join name ≠ higher.join name := by
  intro same
  obtain ⟨rest, rfl⟩ := Nat.exists_eq_add_of_lt before
  rw [Nat.add_assoc, up_add, below, Option.bind_some] at above
  have steep := length_stem_up_add_le above
  have lengths := congrArg (List.length ∘ segments) same
  simp only [Function.comp_apply, segments_join _ relative, List.length_append] at lengths
  omega

end CodeBridge.Path

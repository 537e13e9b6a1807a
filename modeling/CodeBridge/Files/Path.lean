import CodeBridge.Text.Runs

/-! # Paths

A path is kept as it was written, cut at its slashes; it is never normalised. `a//b/` has the
segments `a`, an empty one, `b` and an empty one. A path with an empty first segment and more
behind it starts at the root.

Main statement: a parent is smaller than its path, so the way up from any path ends.
-/

namespace CodeBridge

/-- A path by its segments; the empty path is one empty segment. -/
structure Path where
  segments : List String
  deriving DecidableEq, Repr, Inhabited

namespace Path

def ofText (text : String) : Path :=
  ⟨(Text.runs (· == '/') text.toList).map .ofList⟩

def text (path : Path) : String :=
  "/".intercalate path.segments

/-- The path of no segments but an empty one. -/
def empty : Path := ⟨[""]⟩

/-- The root directory. -/
def root : Path := ⟨["", ""]⟩

/-- Whether a path starts at the root. -/
def isAbsolute (path : Path) : Bool :=
  match path.segments with
  | "" :: _ :: _ => true
  | _ => false

/-- A path seen from another one: an absolute path stands for itself, any other is written behind
the first, with one slash between them. -/
def join (base path : Path) : Path :=
  if path.isAbsolute then path
  else if base.segments.getLast? = some "" then ⟨base.segments.dropLast ++ path.segments⟩
  else ⟨base.segments ++ path.segments⟩

/-- A segment that names nothing: nothing between two slashes, or the directory itself. -/
def isIdle (segment : String) : Bool :=
  segment == "" || segment == "."

/-- Segments without the idle ones at their end. -/
def trimEnd (segments : List String) : List String :=
  (segments.reverse.dropWhile isIdle).reverse

/-- The path without its last name. Idle segments behind the first one name nothing, so they are
dropped with it and before it; the root and the empty path have no parent. -/
def parent? (path : Path) : Option Path :=
  match path.segments with
  | [] => none
  | first :: rest =>
    match trimEnd rest with
    | [] => if first = "" then none else some empty
    | name :: names =>
      match trimEnd (name :: names).dropLast with
      | [] => if first = "" then some root else some ⟨[first]⟩
      | above => some ⟨first :: above⟩

/-- Total length of some segments, each with the slash that ends it. -/
def weight : List String → Nat
  | [] => 0
  | segment :: rest => segment.length + 1 + weight rest

private theorem weight_append (front back : List String) :
    weight (front ++ back) = weight front + weight back := by
  induction front with
  | nil => simp [weight]
  | cons segment rest ih => simp [weight, ih, Nat.add_assoc]

theorem trimEnd_isFront (segments : List String) : trimEnd segments <+: segments := by
  have suffix := List.dropWhile_suffix isIdle (l := segments.reverse)
  simpa [trimEnd] using List.reverse_prefix.mpr suffix

/-- What is left behind after trimming ends in a name. -/
theorem isIdle_getLast_trimEnd {segments : List String} (nonempty : trimEnd segments ≠ []) :
    isIdle ((trimEnd segments).getLast nonempty) = false := by
  have rest : segments.reverse.dropWhile isIdle ≠ [] := by simpa [trimEnd] using nonempty
  have head := List.head_dropWhile_not isIdle rest
  simpa [trimEnd, List.getLast_reverse] using head

private theorem weight_le_of_front {front segments : List String} (cut : front <+: segments) :
    weight front ≤ weight segments := by
  obtain ⟨back, rfl⟩ := cut
  simp [weight_append]

private theorem two_le_weight_of_trimEnd_ne_nil {segments : List String}
    (nonempty : trimEnd segments ≠ []) :
    weight (trimEnd segments).dropLast + 2 ≤ weight segments := by
  have split := List.dropLast_concat_getLast nonempty
  have busy := isIdle_getLast_trimEnd nonempty
  have long : 1 ≤ ((trimEnd segments).getLast nonempty).length := by
    rcases Nat.eq_zero_or_pos ((trimEnd segments).getLast nonempty).length with zero | positive
    · rw [String.length_eq_zero_iff] at zero
      simp [isIdle, zero] at busy
    · exact positive
  have total := weight_le_of_front (trimEnd_isFront segments)
  rw [← split, weight_append] at total
  simp only [weight] at total
  omega

/-- A parent is smaller than its path. -/
theorem weight_parent?_lt {path above : Path} (parent : path.parent? = some above) :
    weight above.segments < weight path.segments := by
  unfold parent? at parent
  split at parent
  · simp at parent
  · rename_i first rest segments
    rw [segments]
    have sum : weight (first :: rest) = first.length + 1 + weight rest := by simp [weight]
    split at parent
    · split at parent
      · simp at parent
      · rename_i named
        obtain rfl := Option.some.inj parent
        have : first.length ≠ 0 := by simpa using named
        simp only [weight, empty, String.length_empty]
        omega
    · rename_i name names trimmed
      have nonempty : trimEnd rest ≠ [] := by simp [trimmed]
      have drop := two_le_weight_of_trimEnd_ne_nil nonempty
      have shorter := weight_le_of_front (trimEnd_isFront (name :: names).dropLast)
      rw [trimmed] at drop
      split at parent
      · split at parent
        · obtain rfl := Option.some.inj parent
          simp only [weight, root, String.length_empty]
          omega
        · obtain rfl := Option.some.inj parent
          simp only [weight]
          omega
      · obtain rfl := Option.some.inj parent
        rw [sum]
        have : weight (first :: trimEnd (name :: names).dropLast) =
            first.length + 1 + weight (trimEnd (name :: names).dropLast) := by simp [weight]
        rw [this]
        omega

/-- A path and the paths above it, nearest first. -/
def ancestors (path : Path) : List Path :=
  match _parent : path.parent? with
  | some above => path :: ancestors above
  | none => [path]
termination_by weight path.segments
decreasing_by exact weight_parent?_lt _parent

end Path

end CodeBridge

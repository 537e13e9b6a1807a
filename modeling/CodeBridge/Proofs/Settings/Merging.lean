import CodeBridge.Proofs.Settings.Leaves

/-! # The algebra of merging

Settings are merged section by section, and sections leaf by leaf. The sections of the log, the
engine and completion are there as soon as either side has them; those of highlighting and of
definitions only if one side says something in them. Merging is associative and idempotent by either
rule, and settings that are all open change nothing when they are merged into others. The other way
round they may: merged into none at all, an empty section of highlighting is lost.

Of a whole row of settings, merged in order, each leaf is the last one that is given.
-/

namespace CodeBridge.Settings

/-! ## One section -/

section Section

variable {α : Type} {combine : α → α → α} {blank : α}

/-- A section that had to be made up on the way is blank, so it adds nothing to what it is put over
or under. -/
theorem mergeSection_assoc
    (assoc : ∀ a b c, combine (combine a b) c = combine a (combine b c))
    (combine_blank : ∀ a, combine a blank = a) (first second third : Option α) :
    mergeSection combine blank (mergeSection combine blank first second) third =
      mergeSection combine blank first (mergeSection combine blank second third) := by
  cases third with
  | none => rfl
  | some third =>
    cases second with
    | none =>
      change some (combine (first.getD blank) third) =
        some (combine (first.getD blank) (combine blank third))
      rw [← assoc, combine_blank]
    | some second =>
      change some (combine (combine (first.getD blank) second) third) =
        some (combine (first.getD blank) (combine second third))
      rw [assoc]

theorem mergeSection_self (idem : ∀ a, combine a a = a) (ours : Option α) :
    mergeSection combine blank ours ours = ours := by
  cases ours with
  | none => rfl
  | some ours => exact congrArg some (idem ours)

end Section

theorem mergeFeature_assoc (first second third : Option FeatureSection) :
    mergeFeature (mergeFeature first second) third =
      mergeFeature first (mergeFeature second third) := by
  cases given : third.bind (·.enabled) with
  | none => simp only [mergeFeature, given]
  | some enabled => simp only [mergeFeature, given, Option.bind_some]

theorem mergeFeature_self (ours : Option FeatureSection) : mergeFeature ours ours = ours := by
  cases ours with
  | none => rfl
  | some ours =>
    obtain ⟨enabled⟩ := ours
    cases enabled with
    | none => rfl
    | some enabled => rfl

/-! ## All sections -/

theorem merge_assoc (first second third : Settings) :
    (first.merge second).merge third = first.merge (second.merge third) := by
  simp only [merge, mk.injEq]
  refine ⟨mergeSection_assoc ?_ ?_ .., mergeSection_assoc ?_ ?_ .., mergeSection_assoc ?_ ?_ ..,
    mergeFeature_assoc .., mergeFeature_assoc ..⟩
  · simp [Option.or_assoc]
  · simp
  · simp [Option.or_assoc]
  · simp
  · simp [Option.or_assoc]
  · simp

theorem merge_self (settings : Settings) : settings.merge settings = settings := by
  obtain ⟨log, engine, completion, highlight, definition⟩ := settings
  simp only [merge, mk.injEq]
  refine ⟨mergeSection_self ?_ .., mergeSection_self ?_ .., mergeSection_self ?_ ..,
    mergeFeature_self .., mergeFeature_self ..⟩
  · simp
  · simp
  · simp

/-- Settings that leave everything open change nothing. -/
theorem merge_blank (settings : Settings) : settings.merge {} = settings := rfl

/-! ## Rows of settings -/

/-- Settings with a whole row of others over them, one after the other. -/
def mergeAll (base : Settings) (others : List Settings) : Settings :=
  others.foldl merge base

/-- The last of a row that gives a leaf decides it; if none does, it stays as in the base. -/
structure LastGiven {α : Type} (leaf : Settings → Option α) (base : Settings)
    (others : List Settings) : Prop where
  last : ∀ front last back value, others = front ++ last :: back → leaf last = some value →
    (∀ later ∈ back, leaf later = none) → leaf (base.mergeAll others) = some value
  base : (∀ other ∈ others, leaf other = none) → leaf (base.mergeAll others) = leaf base

section Leaf

variable {α : Type} (told : Leaves → Option α)
  (first : ∀ sources, told (.firstOf sources) = sources.findSome? told)
include first

theorem told_merge (ours theirs : Settings) :
    told (ours.merge theirs).leaves = (told theirs.leaves).or (told ours.leaves) := by
  rw [leaves_merge, first, findSome?_cons_eq_or, findSome?_cons_eq_or, List.findSome?_nil,
    Option.or_none]

theorem told_mergeAll_of_open (base : Settings) {others : List Settings}
    (unset : ∀ other ∈ others, told other.leaves = none) :
    told (base.mergeAll others).leaves = told base.leaves := by
  induction others generalizing base with
  | nil => rfl
  | cons other rest ih =>
    obtain ⟨here, behind⟩ := List.forall_mem_cons.mp unset
    change told ((base.merge other).mergeAll rest).leaves = told base.leaves
    rw [ih (base.merge other) behind, told_merge told first, here, Option.none_or]

theorem lastGiven (base : Settings) (others : List Settings) :
    LastGiven (fun settings => told settings.leaves) base others where
  last := by
    rintro front last back value rfl given unset
    have cut : base.mergeAll (front ++ last :: back) =
        ((base.mergeAll front).merge last).mergeAll back := List.foldl_append
    rw [cut, told_mergeAll_of_open told first _ unset, told_merge told first, given,
      Option.some_or]
  base := told_mergeAll_of_open told first base

end Leaf

/-- Merging is associative and idempotent, and settings that leave everything open change nothing
in what they are merged into. After a row of settings has been merged in order, each of the six
leaves is that of the last one that gives it, or that of the base. -/
theorem merge_is_right_biased :
    (∀ a b c : Settings, (a.merge b).merge c = a.merge (b.merge c)) ∧
    (∀ a : Settings, a.merge a = a) ∧
    (∀ a : Settings, a.merge {} = a) ∧
    ∀ (base : Settings) (others : List Settings),
      LastGiven logLevel? base others ∧ LastGiven snapshot? base others ∧
      LastGiven completionEnabled? base others ∧ LastGiven snippets? base others ∧
      LastGiven highlightEnabled? base others ∧ LastGiven definitionEnabled? base others := by
  refine ⟨merge_assoc, merge_self, merge_blank, fun base others => ?_⟩
  exact ⟨lastGiven Leaves.logLevel (fun _ => rfl) base others,
    lastGiven Leaves.snapshot (fun _ => rfl) base others,
    lastGiven Leaves.completionEnabled (fun _ => rfl) base others,
    lastGiven Leaves.snippets (fun _ => rfl) base others,
    lastGiven Leaves.highlightEnabled (fun _ => rfl) base others,
    lastGiven Leaves.definitionEnabled (fun _ => rfl) base others⟩

/-- The two rules for sections part where a section is there and empty. -/
example : merge {} { log := some {}, highlight := some {} } = { log := some {} } := by decide

end CodeBridge.Settings

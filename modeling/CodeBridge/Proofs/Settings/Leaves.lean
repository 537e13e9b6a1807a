import CodeBridge.Proofs.Answer
import CodeBridge.Settings.Loader

/-! # Settings leaf by leaf

Sections only hold settings together; what counts is what a source says about each single one
(`Leaves`). Seen like that, sources are put over one another by taking for each setting the first
source that has it (`Leaves.firstOf`), and sections that are there and empty make no difference.

The environment speaks about three settings. A text in it means yes if it does so in lower case, by
any mapping to lower case that keeps to what Unicode says.
-/

namespace CodeBridge

/-- What a source says about each setting. It may leave any of them open. -/
structure Leaves where
  logLevel : Option String := none
  snapshot : Option Path := none
  completionEnabled : Option Bool := none
  snippets : Option Bool := none
  highlightEnabled : Option Bool := none
  definitionEnabled : Option Bool := none
  deriving DecidableEq, Repr

/-- For each setting what the first source says that does not leave it open. -/
def Leaves.firstOf (sources : List Leaves) : Leaves where
  logLevel := sources.findSome? (·.logLevel)
  snapshot := sources.findSome? (·.snapshot)
  completionEnabled := sources.findSome? (·.completionEnabled)
  snippets := sources.findSome? (·.snippets)
  highlightEnabled := sources.findSome? (·.highlightEnabled)
  definitionEnabled := sources.findSome? (·.definitionEnabled)

theorem findSome?_cons_eq_or {α β : Type} (first : α) (rest : List α) (leaf : α → Option β) :
    (first :: rest).findSome? leaf = (leaf first).or (rest.findSome? leaf) := by
  rw [List.findSome?_cons]
  cases leaf first <;> rfl

/-- Sources below others can be taken together first. -/
theorem Leaves.firstOf_cons_firstOf (first : Leaves) (rest : List Leaves) :
    firstOf [first, firstOf rest] = firstOf (first :: rest) := by
  simp only [firstOf, findSome?_cons_eq_or, List.findSome?_nil, Option.or_none]

/-! ## Log levels -/

theorem checkLevel_eq (source level : String) :
    checkLevel source level = if level ∈ logLevels then .ok () else .error ⟨source, level⟩ := by
  simp [checkLevel]

namespace Settings

def leaves (settings : Settings) : Leaves where
  logLevel := settings.logLevel?
  snapshot := settings.snapshot?
  completionEnabled := settings.completionEnabled?
  snippets := settings.snippets?
  highlightEnabled := settings.highlightEnabled?
  definitionEnabled := settings.definitionEnabled?

/-! ## Merging -/

/-- Merged sections have a leaf where one of them has it, if they are combined leaf by leaf. -/
theorem mergeSection_bind {α β : Type} {combine : α → α → α} {blank : α} (leaf : α → Option β)
    (combined : ∀ ours theirs, leaf (combine ours theirs) = (leaf theirs).or (leaf ours))
    (open_blank : leaf blank = none) (ours theirs : Option α) :
    (mergeSection combine blank ours theirs).bind leaf =
      (theirs.bind leaf).or (ours.bind leaf) := by
  cases theirs with
  | none => rfl
  | some theirs =>
    cases ours with
    | none => simp [mergeSection, combined, open_blank]
    | some ours => simp [mergeSection, combined]

theorem mergeFeature_bind (ours theirs : Option FeatureSection) :
    (mergeFeature ours theirs).bind (·.enabled) =
      (theirs.bind (·.enabled)).or (ours.bind (·.enabled)) := by
  unfold mergeFeature
  cases theirs.bind (·.enabled) <;> rfl

theorem leaves_merge (ours theirs : Settings) :
    (ours.merge theirs).leaves = .firstOf [theirs.leaves, ours.leaves] := by
  simp only [Leaves.firstOf, findSome?_cons_eq_or, List.findSome?_nil, Option.or_none, leaves,
    Leaves.mk.injEq, merge, logLevel?, snapshot?, completionEnabled?, snippets?,
    highlightEnabled?, definitionEnabled?]
  exact ⟨mergeSection_bind LogSection.level (fun _ _ => rfl) rfl ..,
    mergeSection_bind EngineSection.snapshot (fun _ _ => rfl) rfl ..,
    mergeSection_bind CompletionSection.enabled (fun _ _ => rfl) rfl ..,
    mergeSection_bind CompletionSection.snippets (fun _ _ => rfl) rfl ..,
    mergeFeature_bind .., mergeFeature_bind ..⟩

/-! ## The snapshot of a file -/

/-- The path that settings name as their snapshot is seen from a directory. -/
theorem leaves_resolveSnapshot (settings : Settings) (directory : Path) :
    (settings.resolveSnapshot directory).leaves =
      { settings.leaves with snapshot := settings.snapshot?.map directory.join } := by
  unfold resolveSnapshot
  split
  · next snapshot given =>
    split
    · next absolute => simp [leaves, given, Path.join, absolute]
    · rw [given]
      rfl
  · next given =>
    rw [given]
    exact congrArg (fun path => { settings.leaves with snapshot := path }) given

end Settings

/-! ## The environment -/

/-- What Unicode says of lower case, as far as ASCII is concerned. ASCII texts only change in the
letters from A to Z. A text with other characters does not come out as a mere ASCII text, but for
the Kelvin sign, which becomes `k`. -/
structure IsLowercasing (lower : String → String) : Prop where
  ascii : ∀ text : String, (∀ c ∈ text.toList, c.toNat < 128) → lower text = text.map Char.toLower
  other : ∀ text : String, (∃ c ∈ text.toList, 128 ≤ c.toNat) →
    ∃ c ∈ (lower text).toList, 128 ≤ c.toNat ∨ c = 'k'

/-- The texts that mean yes. -/
def affirmatives : List String := ["true", "1", "yes"]

theorem toLower_eq_self {c : Char} (other : 128 ≤ c.toNat) : c.toLower = c := by
  have beyond : ¬(c.val ≥ 'A'.val ∧ c.val ≤ 'Z'.val) := by
    rintro ⟨-, small⟩
    have : c.toNat ≤ 90 := UInt32.le_iff_toNat_le.mp small
    omega
  exact dif_neg beyond

/-- Lower case in ASCII alone is one such mapping. -/
theorem isLowercasing_toLower : IsLowercasing (String.map Char.toLower) where
  ascii _ _ := rfl
  other := by
    rintro text ⟨c, member, large⟩
    refine ⟨c, ?_, .inl large⟩
    rw [String.toList_map]
    exact List.mem_map.mpr ⟨c, member, toLower_eq_self large⟩

/-- A text means yes if it is one of three words in lower case. They have no `k`, so characters
beyond ASCII cannot lead to them. -/
theorem isAffirmative_eq {lower : String → String} (lowercasing : IsLowercasing lower)
    (text : String) : Settings.isAffirmative text = decide (lower text ∈ affirmatives) := by
  have words : ∀ word ∈ affirmatives, ∀ c ∈ word.toList, c.toNat < 128 ∧ c ≠ 'k' := by
    simp [affirmatives]
  have unfolded : Settings.isAffirmative text = decide (text.map Char.toLower ∈ affirmatives) := by
    simp [Settings.isAffirmative, affirmatives]
  by_cases plain : ∀ c ∈ text.toList, c.toNat < 128
  · rw [unfolded, lowercasing.ascii text plain]
  · have other : ∃ c ∈ text.toList, 128 ≤ c.toNat := by simpa using plain
    -- Such a text is none of the words by either mapping.
    have outside {lower : String → String} (lowercasing : IsLowercasing lower) :
        lower text ∉ affirmatives := by
      intro listed
      obtain ⟨c, member, odd⟩ := lowercasing.other text other
      have usual := words _ listed c member
      rcases odd with large | kelvin
      · omega
      · exact usual.2 kelvin
    rw [unfolded, decide_eq_false (outside isLowercasing_toLower),
      decide_eq_false (outside lowercasing)]

/-- What the environment says about each setting, its texts put to lower case by `lower`. -/
def Environment.leaves (environment : Environment) (lower : String → String) : Leaves where
  logLevel := environment.logLevel
  snapshot := environment.snapshot.map .ofText
  snippets := environment.snippets.map fun text => decide (lower text ∈ affirmatives)

namespace Settings

variable {settings : Settings} {environment : Environment}

/-- Settings with those of the environment over them, its log level unchecked. -/
def overlay (settings : Settings) (environment : Environment) : Settings :=
  let levelled := environment.logLevel.elim settings settings.setLogLevel
  let located := (environment.snapshot.map Path.ofText).elim levelled levelled.setSnapshot
  (environment.snippets.map isAffirmative).elim located located.setSnippets

theorem withEnvironment_of_mem (valid : ∀ level ∈ environment.logLevel, level ∈ logLevels) :
    settings.withEnvironment environment = .ok (settings.overlay environment) := by
  unfold withEnvironment overlay
  cases given : environment.logLevel with
  | none => cases environment.snapshot <;> cases environment.snippets <;> rfl
  | some level =>
    simp only [checkLevel_eq, if_pos (valid level given)]
    cases environment.snapshot <;> cases environment.snippets <;> rfl

theorem withEnvironment_of_not_mem {level : String} (given : environment.logLevel = some level)
    (unknown : level ∉ logLevels) :
    settings.withEnvironment environment = .error ⟨"QUILL_LOG", level⟩ := by
  unfold withEnvironment
  simp only [given, checkLevel_eq, if_neg unknown]
  rfl

theorem leaves_elim_setLogLevel (settings : Settings) (level : Option String) :
    (level.elim settings settings.setLogLevel).leaves =
      { settings.leaves with logLevel := level.or settings.leaves.logLevel } := by
  cases level <;> rfl

theorem leaves_elim_setSnapshot (settings : Settings) (snapshot : Option Path) :
    (snapshot.elim settings settings.setSnapshot).leaves =
      { settings.leaves with snapshot := snapshot.or settings.leaves.snapshot } := by
  cases snapshot <;> rfl

/-- The other setting of the section is kept, whether or not the section was there. -/
theorem leaves_elim_setSnippets (settings : Settings) (snippets : Option Bool) :
    (snippets.elim settings settings.setSnippets).leaves =
      { settings.leaves with snippets := snippets.or settings.leaves.snippets } := by
  cases snippets with
  | none => rfl
  | some snippets =>
    have kept : (settings.setSnippets snippets).completionEnabled? =
        settings.completionEnabled? := by
      unfold completionEnabled? setSnippets
      cases settings.completion <;> rfl
    exact congrArg
      (fun enabled =>
        { settings.leaves with completionEnabled := enabled, snippets := some snippets })
      kept

theorem leaves_overlay {lower : String → String} (lowercasing : IsLowercasing lower)
    (settings : Settings) (environment : Environment) :
    (settings.overlay environment).leaves =
      .firstOf [environment.leaves lower, settings.leaves] := by
  have texts : environment.snippets.map isAffirmative =
      environment.snippets.map fun text => decide (lower text ∈ affirmatives) :=
    congrArg environment.snippets.map (funext (isAffirmative_eq lowercasing))
  simp only [overlay, leaves_elim_setSnippets, leaves_elim_setSnapshot, leaves_elim_setLogLevel,
    texts, Leaves.firstOf, findSome?_cons_eq_or, List.findSome?_nil, Option.or_none,
    Environment.leaves, Option.none_or]

end Settings

end CodeBridge

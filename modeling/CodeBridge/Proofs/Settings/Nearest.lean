import CodeBridge.Proofs.Files.Ancestors
import CodeBridge.Proofs.Settings.Loading

/-! # The nearest project file

A load looks for a project file in its start directory, then in the parent of that, and so on until
a path has no parent. The first directory that has one, readable or not, is the root of the project,
and its file is the one that is loaded. If that file is refused, so is the load, even where a good
one lies above it: what is further up is never looked at.
-/

namespace CodeBridge

namespace Settings

variable {files files' : Files} {start directory : Path} {steps : Nat} {settings : Settings}
  {error : SettingsError}

/-- A directory that many steps up has a project file, and none before it has. -/
structure IsNearest (files : Files) (start : Path) (steps : Nat) (directory : Path) : Prop where
  reached : start.up steps = some directory
  there : files.has (directory.join projectFile) = true
  first : ∀ lower < steps, ∀ below, start.up lower = some below →
    files.has (below.join projectFile) = false

/-- No directory on the way up has a project file. -/
def HasNoProject (files : Files) (start : Path) : Prop :=
  ∀ steps directory, start.up steps = some directory →
    files.has (directory.join projectFile) = false

theorem nearestDirectory?_eq_some_iff :
    nearestDirectory? files start = some directory ↔
      ∃ steps, IsNearest files start steps directory := by
  unfold nearestDirectory?
  rw [List.find?_eq_some_iff_getElem]
  constructor
  · rintro ⟨there, steps, inside, here, before⟩
    refine ⟨steps, ?_, there, fun lower earlier below reached => ?_⟩
    · rw [← Path.getElem?_ancestors]
      exact List.getElem?_eq_some_iff.mpr ⟨inside, here⟩
    · rw [← Path.getElem?_ancestors] at reached
      obtain ⟨_, rfl⟩ := List.getElem?_eq_some_iff.mp reached
      simpa using before lower earlier
  · rintro ⟨steps, reached, there, first⟩
    rw [← Path.getElem?_ancestors] at reached
    obtain ⟨inside, here⟩ := List.getElem?_eq_some_iff.mp reached
    refine ⟨there, steps, inside, here, fun lower earlier => ?_⟩
    have absent := first lower earlier _ (by
      rw [← Path.getElem?_ancestors]
      exact List.getElem?_eq_getElem (Nat.lt_trans earlier inside))
    simp [absent]

theorem nearestDirectory?_eq_none_iff :
    nearestDirectory? files start = none ↔ HasNoProject files start := by
  unfold nearestDirectory? HasNoProject
  rw [List.find?_eq_none]
  constructor
  · intro nowhere steps directory reached
    simpa using nowhere directory (Path.mem_ancestors_iff.mpr ⟨steps, reached⟩)
  · intro nowhere directory member
    obtain ⟨steps, reached⟩ := Path.mem_ancestors_iff.mp member
    simp [nowhere steps directory reached]

/-! ## What the search gives -/

/-- What a load goes on with after the search: the root of the project and its settings, or no root
and settings that leave everything open. -/
def rootAndSettings (project : Option (Path × Settings)) : Option Path × Settings :=
  (project.map Prod.fst, (project.map Prod.snd).getD {})

/-- The root of the project and its settings. -/
def search (files : Files) (start : Path) : Except SettingsError (Option Path × Settings) :=
  (findProject files start).map rootAndSettings

theorem search_of_isNearest (nearest : IsNearest files start steps directory) :
    search files start =
      (load files (directory.join projectFile)).map fun settings => (some directory, settings) := by
  unfold search
  rw [findProject_of_nearest (nearestDirectory?_eq_some_iff.mpr ⟨steps, nearest⟩)]
  cases load files (directory.join projectFile) <;> rfl

theorem search_of_hasNoProject (nowhere : HasNoProject files start) :
    search files start = .ok (none, {}) := by
  unfold search
  rw [findProject_of_none (nearestDirectory?_eq_none_iff.mpr nowhere)]
  rfl

/-- There is a nearest project file or there is none at all. -/
theorem isNearest_or_hasNoProject (files : Files) (start : Path) :
    (∃ steps directory, IsNearest files start steps directory) ∨ HasNoProject files start := by
  cases found : nearestDirectory? files start with
  | none => exact .inr (nearestDirectory?_eq_none_iff.mp found)
  | some directory =>
    obtain ⟨steps, nearest⟩ := nearestDirectory?_eq_some_iff.mp found
    exact .inl ⟨steps, directory, nearest⟩

theorem search_eq_root_iff :
    search files start = .ok (some directory, settings) ↔
      (∃ steps, IsNearest files start steps directory) ∧
        load files (directory.join projectFile) = .ok settings := by
  constructor
  · intro found
    rcases isNearest_or_hasNoProject files start with ⟨steps, other, nearest⟩ | nowhere
    · rw [search_of_isNearest nearest] at found
      obtain ⟨given, loaded, same⟩ := map_eq_ok_iff.mp found
      cases same
      exact ⟨⟨steps, nearest⟩, loaded⟩
    · cases (search_of_hasNoProject nowhere).symm.trans found
  · rintro ⟨⟨steps, nearest⟩, loaded⟩
    rw [search_of_isNearest nearest, loaded]
    rfl

theorem search_eq_none_iff :
    search files start = .ok (none, settings) ↔ settings = {} ∧ HasNoProject files start := by
  constructor
  · intro found
    rcases isNearest_or_hasNoProject files start with ⟨steps, other, nearest⟩ | nowhere
    · rw [search_of_isNearest nearest] at found
      obtain ⟨given, -, same⟩ := map_eq_ok_iff.mp found
      cases same
    · cases (search_of_hasNoProject nowhere).symm.trans found
      exact ⟨rfl, nowhere⟩
  · rintro ⟨rfl, nowhere⟩
    exact search_of_hasNoProject nowhere

theorem search_eq_error_iff :
    search files start = .error error ↔ ∃ steps directory, IsNearest files start steps directory ∧
      load files (directory.join projectFile) = .error error := by
  constructor
  · intro failed
    rcases isNearest_or_hasNoProject files start with ⟨steps, directory, nearest⟩ | nowhere
    · rw [search_of_isNearest nearest] at failed
      exact ⟨steps, directory, nearest, map_eq_error_iff.mp failed⟩
    · cases (search_of_hasNoProject nowhere).symm.trans failed
  · rintro ⟨steps, directory, nearest, failed⟩
    rw [search_of_isNearest nearest, failed]
    rfl

/-! ## What is further up -/

/-- Both trees have the same project files up to the directory that many steps up. Anywhere else
they may differ. -/
def SameUpTo (files files' : Files) (start : Path) (steps : Nat) : Prop :=
  ∀ lower ≤ steps, ∀ below, start.up lower = some below →
    files' (below.join projectFile) = files (below.join projectFile)

theorem load_congr {path : Path} (same : files' path = files path) :
    load files' path = load files path := by
  unfold load
  rw [same]

theorem IsNearest.of_sameUpTo (nearest : IsNearest files start steps directory)
    (same : SameUpTo files files' start steps) : IsNearest files' start steps directory where
  reached := nearest.reached
  there :=
    (Files.has_congr (same steps (Nat.le_refl _) directory nearest.reached)).trans nearest.there
  first lower earlier below reached :=
    (Files.has_congr (same lower (Nat.le_of_lt earlier) below reached)).trans
      (nearest.first lower earlier below reached)

/-- The search depends on the files up to the nearest project file and on nothing above it. -/
theorem findProject_congr (nearest : IsNearest files start steps directory)
    (same : SameUpTo files files' start steps) :
    findProject files' start = findProject files start := by
  rw [findProject_of_nearest (nearestDirectory?_eq_some_iff.mpr ⟨steps, nearest⟩),
    findProject_of_nearest
      (nearestDirectory?_eq_some_iff.mpr ⟨steps, nearest.of_sameUpTo same⟩),
    load_congr (same steps (Nat.le_refl _) directory nearest.reached)]

end Settings

namespace Loader

open Settings

variable {loader : Loader} {files files' : Files} {environment : Environment} {start : Path}
  {error : SettingsError}

/-- A load fails as the search does or as the environment has it, so no other file matters. -/
theorem load_eq_error_congr (same : findProject files' start = findProject files start) :
    (loader.load files' environment start).2 = .error error ↔
      (loader.load files environment start).2 = .error error := by
  rw [load_answer, load_answer, same]
  cases findProject files start with
  | error fault => exact Iff.rfl
  | ok project =>
    rw [ok_bind, ok_bind, combine_eq_error_iff, combine_eq_error_iff]

/-- Both trees have the same global file. -/
def SameGlobal (loader : Loader) (environment : Environment) (files files' : Files) : Prop :=
  ∀ path ∈ loader.globalPath? environment, files' path = files path

theorem load_congr_files (same : findProject files' start = findProject files start)
    (global : loader.SameGlobal environment files files') :
    loader.load files' environment start = loader.load files environment start := by
  have base : loader.globalSettings files' environment =
      loader.globalSettings files environment := by
    unfold globalSettings
    cases found : loader.globalPath? environment with
    | none => rfl
    | some path =>
      have here := global path found
      simp only [Files.has_congr here, Settings.load_congr here]
  unfold load combine
  rw [same, base]

/-- The root of what is loaded is the root that the search gives. -/
theorem exists_search_of_load {config : Config}
    (loaded : (loader.load files environment start).2 = .ok config) :
    ∃ settings, search files start = .ok (config.projectRoot, settings) := by
  rw [load_answer] at loaded
  obtain ⟨project, found, combined⟩ := bind_eq_ok_iff.mp loaded
  obtain ⟨settings, -, whole⟩ := bind_eq_ok_iff.mp combined
  cases whole
  exact ⟨(project.map Prod.snd).getD {}, by rw [search, found]; rfl⟩

/-- The way up from a directory ends after at most as many steps as its path has segments. The
search gives as the root of the project the first directory on it that has a project file, with the
settings of that file, and gives no root and no settings exactly if none has one. It fails exactly
if that file is refused, whatever lies above. Changes further up, which are changes at other paths,
are neither seen by the search nor by a load, unless they touch the global file; and whether a load
fails does not even depend on that. -/
theorem search_stops_at_nearest (files : Files) (start : Path) :
    (∀ steps directory, start.up steps = some directory → steps ≤ start.segments.length) ∧
    (∀ directory settings, search files start = .ok (some directory, settings) ↔
      (∃ steps, IsNearest files start steps directory) ∧
        Settings.load files (directory.join projectFile) = .ok settings) ∧
    (∀ settings, search files start = .ok (none, settings) ↔
      settings = {} ∧ HasNoProject files start) ∧
    (∀ error, search files start = .error error ↔
      ∃ steps directory, IsNearest files start steps directory ∧
        Settings.load files (directory.join projectFile) = .error error) ∧
    (∀ (loader : Loader) (environment : Environment) (config : Config),
      (loader.load files environment start).2 = .ok config →
        ∃ settings, search files start = .ok (config.projectRoot, settings)) ∧
    (∀ steps further lower higher, steps < further → start.up steps = some lower →
      start.up further = some higher → lower.join projectFile ≠ higher.join projectFile) ∧
    ∀ steps directory files', IsNearest files start steps directory →
      SameUpTo files files' start steps →
      search files' start = search files start ∧
      ∀ (loader : Loader) (environment : Environment),
        (∀ error, (loader.load files' environment start).2 = .error error ↔
          (loader.load files environment start).2 = .error error) ∧
        (loader.SameGlobal environment files files' →
          loader.load files' environment start = loader.load files environment start) := by
  refine ⟨fun _ _ => Path.steps_le_of_up_eq_some, fun _ _ => search_eq_root_iff,
    fun _ => search_eq_none_iff, fun _ => search_eq_error_iff,
    fun _ _ _ => exists_search_of_load, fun _ _ _ _ => Path.join_ne_join_of_up (by decide), ?_⟩
  intro steps directory files' nearest same
  have found := findProject_congr nearest same
  refine ⟨?_, fun loader environment => ⟨fun error => load_eq_error_congr found, ?_⟩⟩
  · unfold search
    rw [found]
  · exact load_congr_files found

/-- Two project files on the way up; the nearer one is cut off. -/
def brokenFiles : Files := fun path =>
  if path = .ofText "/work/src/quill.toml" then .ok "[log"
  else if path = .ofText "/work/quill.toml" then .ok "[highlight]\nenabled = false"
  else .error .missing

theorem search_stops_at_nearest_broken :
    search brokenFiles (.ofText "/work/src//./main/") =
      .error (.malformed (.ofText "/work/src/quill.toml")) := by
  have nearest : IsNearest brokenFiles (.ofText "/work/src//./main/") 1 (.ofText "/work/src") := by
    refine ⟨by decide +kernel, by decide +kernel, fun lower earlier below reached => ?_⟩
    obtain rfl : lower = 0 := by omega
    cases reached
    decide +kernel
  have read : brokenFiles (.ofText "/work/src/quill.toml") = .ok "[log" := by decide +kernel
  have decoded : Settings.read "[log" = none := by decide +kernel
  refine ((search_stops_at_nearest brokenFiles _).2.2.2.1 _).mpr ⟨1, _, nearest, ?_⟩
  exact load_of_refuses (.malformed read decoded)

end Loader

end CodeBridge

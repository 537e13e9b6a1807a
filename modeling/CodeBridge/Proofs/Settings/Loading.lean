import CodeBridge.Proofs.Settings.Leaves

/-! # What loading settings gives

A settings file is either refused, for one of four reasons (`Refuses`), or it speaks: about each
setting as its text does, with the snapshot seen from the directory of the file (`fileLeaves`). The
sources of a load are the environment, the nearest project file and the global file. A project file
that is refused ends the load, and so does a log level of the environment that is none; a global
file that is refused or not there is passed over. Otherwise the load gives for each setting what the
first source says that has it (`exists_load_of_sound`).
-/

namespace CodeBridge

/-- The directory that a file lies in; for a path without a parent, no directory at all. -/
def Path.directory (path : Path) : Path :=
  path.parent?.getD .empty

theorem Path.empty_join (path : Path) : Path.empty.join path = path := by
  unfold join
  split
  · rfl
  · rfl

/-- A path is kept as it was written. -/
theorem Path.text_ofText (text : String) : (Path.ofText text).text = text := by
  apply String.toList_injective
  have slash : "/".toList = ['/'] := rfl
  rw [Path.text, Path.ofText, String.toList_intercalate, List.map_map, slash]
  simpa using Text.intercalate_runs '/' text.toList

theorem Files.has_congr {files files' : Files} {path : Path} (same : files' path = files path) :
    files'.has path = files.has path := by
  unfold has
  rw [same]

namespace Settings

/-! ## One file -/

/-- A file is refused as a source of settings. -/
inductive Refuses (files : Files) (path : Path) : SettingsError → Prop
  | missing (read : files path = .error .missing) : Refuses files path (.notFound path)
  | unreadable {fault : FileFault} (read : files path = .error fault) (there : fault ≠ .missing) :
    Refuses files path (.unreadable fault)
  | malformed {text : String} (read : files path = .ok text) (decoded : Settings.read text = none) :
    Refuses files path (.malformed path)
  | invalidLevel {text level : String} {settings : Settings} (read : files path = .ok text)
    (decoded : Settings.read text = some settings) (given : settings.logLevel? = some level)
    (unknown : level ∉ logLevels) : Refuses files path (.invalidLevel ⟨"log.level", level⟩)

/-- The settings that the text of a file gives, unless the file is refused. -/
def given? (files : Files) (path : Path) : Option Settings :=
  match files path with
  | .ok text =>
    (Settings.read text).filter fun settings => ∀ level ∈ settings.logLevel?, level ∈ logLevels
  | .error _ => none

/-- What a file says about each setting: as its text does, but with the snapshot seen from the
directory of the file. A file that is refused says nothing. -/
def fileLeaves (files : Files) (path : Path) : Leaves :=
  match given? files path with
  | some settings => { settings.leaves with snapshot := settings.snapshot?.map path.directory.join }
  | none => {}

section File

variable {files : Files} {path : Path} {settings : Settings} {error : SettingsError}

theorem given?_eq_some_iff :
    given? files path = some settings ↔ ∃ text, files path = .ok text ∧
      Settings.read text = some settings ∧ ∀ level ∈ settings.logLevel?, level ∈ logLevels := by
  unfold given?
  cases files path with
  | error fault => simp
  | ok text => simp [Option.filter_eq_some_iff]

theorem fileLeaves_of_given (given : given? files path = some settings) :
    fileLeaves files path =
      { settings.leaves with snapshot := settings.snapshot?.map path.directory.join } := by
  rw [fileLeaves, given]

/-- A file that gives no settings is refused. -/
theorem exists_refuses (nothing : given? files path = none) :
    ∃ error, Refuses files path error := by
  cases read : files path with
  | error fault =>
    by_cases missing : fault = .missing
    · exact ⟨_, .missing (missing ▸ read)⟩
    · exact ⟨_, .unreadable read missing⟩
  | ok text =>
    cases decoded : Settings.read text with
    | none => exact ⟨_, .malformed read decoded⟩
    | some settings =>
      have invalid : ¬∀ level ∈ settings.logLevel?, level ∈ logLevels := by
        intro valid
        rw [given?_eq_some_iff.mpr ⟨text, read, decoded, valid⟩] at nothing
        cases nothing
      obtain ⟨level, given, unknown⟩ := by simpa using invalid
      exact ⟨_, .invalidLevel read decoded given unknown⟩

theorem validate_of_mem (valid : ∀ level ∈ settings.logLevel?, level ∈ logLevels) :
    settings.validate = .ok () := by
  unfold validate
  cases given : settings.logLevel? with
  | none => rfl
  | some level => exact (checkLevel_eq ..).trans (if_pos (valid level given))

theorem validate_of_not_mem {level : String} (given : settings.logLevel? = some level)
    (unknown : level ∉ logLevels) : settings.validate = .error ⟨"log.level", level⟩ := by
  unfold validate
  rw [given]
  exact (checkLevel_eq ..).trans (if_neg unknown)

theorem load_of_refuses (refused : Refuses files path error) :
    load files path = .error error := by
  unfold load
  cases refused with
  | missing read =>
    simp only [read]
    rfl
  | @unreadable fault read there =>
    cases fault with
    | missing => exact absurd rfl there
    | _ =>
      simp only [read]
      rfl
  | malformed read decoded =>
    simp only [read, pure_bind, decoded]
    rfl
  | invalidLevel read decoded given unknown =>
    simp only [read, pure_bind, decoded, validate_of_not_mem given unknown]
    rfl

theorem exists_load_of_given (given : given? files path = some settings) :
    ∃ loaded, load files path = .ok loaded ∧ loaded.leaves = fileLeaves files path := by
  obtain ⟨text, read, decoded, valid⟩ := given?_eq_some_iff.mp given
  have success : load files path = .ok
      (path.parent?.elim settings settings.resolveSnapshot) := by
    unfold load
    simp only [read, pure_bind, decoded, validate_of_mem valid]
    cases path.parent? <;> rfl
  refine ⟨_, success, ?_⟩
  rw [fileLeaves_of_given given, Path.directory]
  cases path.parent? with
  | some directory => exact leaves_resolveSnapshot settings directory
  | none =>
    -- No directory to see the snapshot from: it stays as it was written.
    change settings.leaves =
      { settings.leaves with snapshot := settings.snapshot?.map Path.empty.join }
    rw [funext Path.empty_join, Option.map_id']
    rfl

theorem not_refuses_of_given (given : given? files path = some settings) :
    ¬Refuses files path error := by
  intro refused
  obtain ⟨loaded, success, -⟩ := exists_load_of_given given
  cases success.symm.trans (load_of_refuses refused)

/-- A load that passes over a refused file gives what the file says. -/
theorem leaves_load (files : Files) (path : Path) :
    (match load files path with
      | .ok settings => settings
      | .error _ => {}).leaves = fileLeaves files path := by
  cases given : given? files path with
  | some settings =>
    obtain ⟨loaded, success, leaves⟩ := exists_load_of_given given
    rw [success]
    exact leaves
  | none =>
    obtain ⟨error, refused⟩ := exists_refuses given
    rw [load_of_refuses refused, fileLeaves, given]
    rfl

/-- A file that is not refused has no log level that is none. -/
theorem mem_logLevels_of_fileLeaves {level : String}
    (told : (fileLeaves files path).logLevel = some level) : level ∈ logLevels := by
  unfold fileLeaves at told
  split at told
  · next settings given =>
    obtain ⟨text, -, -, valid⟩ := given?_eq_some_iff.mp given
    exact valid level told
  · cases told

theorem fileLeaves_of_not_has (absent : ¬files.has path = true) : fileLeaves files path = {} := by
  cases read : files path with
  | ok text => exact absurd (by simp [Files.has, read]) absent
  | error fault => simp only [fileLeaves, given?, read]

end File

/-! ## The project file -/

/-- The nearest project file: the first on the way up from a directory that is there. -/
def nearestFile? (files : Files) (start : Path) : Option Path :=
  (start.ancestors.map (·.join projectFile)).find? files.has

/-- The directory of the nearest project file. -/
def nearestDirectory? (files : Files) (start : Path) : Option Path :=
  start.ancestors.find? fun directory => files.has (directory.join projectFile)

theorem nearestFile?_eq_map (files : Files) (start : Path) :
    nearestFile? files start = (nearestDirectory? files start).map (·.join projectFile) :=
  List.find?_map

/-- The search stops at the first directory with a project file and answers for that file alone. -/
theorem nearest_eq (files : Files) (directories : List Path) :
    nearest files directories =
      match directories.find? fun directory => files.has (directory.join projectFile) with
      | some directory =>
        (load files (directory.join projectFile)).map fun settings => some (directory, settings)
      | none => .ok none := by
  induction directories with
  | nil => rfl
  | cons directory rest ih =>
    unfold nearest
    rw [List.find?_cons]
    cases files.has (directory.join projectFile) with
    | true =>
      change (load files (directory.join projectFile) >>= fun settings =>
        .ok (some (directory, settings))) = (load files (directory.join projectFile)).map _
      cases load files (directory.join projectFile) <;> rfl
    | false => exact ih

theorem findProject_of_nearest {files : Files} {start directory : Path}
    (found : nearestDirectory? files start = some directory) :
    findProject files start =
      (load files (directory.join projectFile)).map fun settings => some (directory, settings) := by
  rw [findProject, nearest_eq]
  unfold nearestDirectory? at found
  rw [found]

theorem findProject_of_none {files : Files} {start : Path}
    (found : nearestDirectory? files start = none) : findProject files start = .ok none := by
  rw [findProject, nearest_eq]
  unfold nearestDirectory? at found
  rw [found]

/-- The nearest project file, if there is one, is not refused. -/
def ProjectSound (files : Files) (start : Path) : Prop :=
  ∀ path error, nearestFile? files start = some path → ¬Refuses files path error

/-- What the nearest project file says; nothing if there is none. -/
def projectLeaves (files : Files) (start : Path) : Leaves :=
  (nearestFile? files start).elim {} (fileLeaves files)

theorem findProject_of_refuses {files : Files} {start path : Path} {error : SettingsError}
    (found : nearestFile? files start = some path) (refused : Refuses files path error) :
    findProject files start = .error error := by
  rw [nearestFile?_eq_map] at found
  obtain ⟨directory, nearest, rfl⟩ := Option.map_eq_some_iff.mp found
  rw [findProject_of_nearest nearest, load_of_refuses refused]
  rfl

theorem exists_findProject_of_sound {files : Files} {start : Path}
    (sound : ProjectSound files start) :
    ∃ project, findProject files start = .ok project ∧
      ((project.map Prod.snd).getD {}).leaves = projectLeaves files start := by
  unfold ProjectSound at sound
  unfold projectLeaves
  rw [nearestFile?_eq_map] at sound ⊢
  cases found : nearestDirectory? files start with
  | none => exact ⟨none, findProject_of_none found, rfl⟩
  | some directory =>
    rw [found, Option.map_some] at sound
    cases given : given? files (directory.join projectFile) with
    | none =>
      obtain ⟨error, refused⟩ := exists_refuses given
      exact absurd refused (sound _ error rfl)
    | some settings =>
      obtain ⟨loaded, success, leaves⟩ := exists_load_of_given given
      refine ⟨some (directory, loaded), ?_, leaves⟩
      rw [findProject_of_nearest found, success]
      rfl

end Settings

namespace Loader

open Settings

variable (loader : Loader) (files : Files) (environment : Environment)

/-! ## The global file -/

/-- What the global file says; nothing if it is not there or cannot be found. -/
def globalLeaves : Leaves :=
  (loader.globalPath? environment).elim {} (fileLeaves files)

theorem leaves_globalSettings :
    (loader.globalSettings files environment).leaves = loader.globalLeaves files environment := by
  unfold globalSettings globalLeaves
  cases loader.globalPath? environment with
  | none => rfl
  | some path =>
    change (if files.has path then _ else _ : Settings).leaves = fileLeaves files path
    by_cases there : files.has path = true
    · rw [if_pos there]
      exact leaves_load files path
    · rw [if_neg there, fileLeaves_of_not_has there]
      rfl

/-! ## All sources -/

variable {loader files environment} {start : Path} {error : SettingsError} {config : Config}

theorem load_answer (loader : Loader) (files : Files) (environment : Environment) (start : Path) :
    (loader.load files environment start).2 =
      findProject files start >>= loader.combine files environment := by
  unfold load
  cases findProject files start <;> rfl

/-- Once a load has got past the search, only the log level of the environment is left to fail. -/
theorem combine_eq_error_iff {project : Option (Path × Settings)} :
    loader.combine files environment project = .error error ↔
      ∃ level, environment.logLevel = some level ∧ level ∉ logLevels ∧
        error = .invalidLevel ⟨"QUILL_LOG", level⟩ := by
  by_cases valid : ∀ level ∈ environment.logLevel, level ∈ logLevels
  · rw [combine, withEnvironment_of_mem valid]
    constructor
    · intro failed
      cases failed
    · rintro ⟨level, given, unknown, -⟩
      exact absurd (valid level given) unknown
  · obtain ⟨level, given, unknown⟩ := by simpa using valid
    rw [combine, withEnvironment_of_not_mem given unknown]
    constructor
    · intro failed
      cases failed
      exact ⟨level, given, unknown, rfl⟩
    · rintro ⟨other, given', -, rfl⟩
      cases given.symm.trans given'
      rfl

theorem load_of_project_refused {path : Path} (found : nearestFile? files start = some path)
    (refused : Refuses files path error) :
    (loader.load files environment start).2 = .error error := by
  rw [load_answer, findProject_of_refuses found refused]
  rfl

theorem load_of_environment_invalid (sound : ProjectSound files start) {level : String}
    (given : environment.logLevel = some level) (unknown : level ∉ logLevels) :
    (loader.load files environment start).2 = .error (.invalidLevel ⟨"QUILL_LOG", level⟩) := by
  obtain ⟨project, found, -⟩ := exists_findProject_of_sound sound
  rw [load_answer, found, ok_bind]
  exact combine_eq_error_iff.mpr ⟨level, given, unknown, rfl⟩

theorem exists_load_of_sound {lower : String → String} (lowercasing : IsLowercasing lower)
    (sound : ProjectSound files start)
    (valid : ∀ level ∈ environment.logLevel, level ∈ logLevels) :
    ∃ config, (loader.load files environment start).2 = .ok config ∧
      config.settings.leaves = .firstOf [environment.leaves lower, projectLeaves files start,
        loader.globalLeaves files environment] := by
  obtain ⟨project, found, leaves⟩ := exists_findProject_of_sound sound
  rw [load_answer, found, ok_bind, combine, withEnvironment_of_mem valid]
  refine ⟨_, rfl, ?_⟩
  rw [leaves_overlay lowercasing, leaves_merge, leaves_globalSettings, leaves,
    Leaves.firstOf_cons_firstOf]

theorem projectSound_of_load (loaded : (loader.load files environment start).2 = .ok config) :
    ProjectSound files start := by
  intro path error found refused
  rw [load_of_project_refused found refused] at loaded
  cases loaded

theorem mem_logLevels_of_load (loaded : (loader.load files environment start).2 = .ok config) :
    ∀ level ∈ environment.logLevel, level ∈ logLevels := by
  intro level given
  refine Decidable.byContradiction fun unknown => ?_
  rw [load_of_environment_invalid (projectSound_of_load loaded) given unknown] at loaded
  cases loaded

theorem leaves_of_load {lower : String → String} (lowercasing : IsLowercasing lower)
    (loaded : (loader.load files environment start).2 = .ok config) :
    config.settings.leaves = .firstOf [environment.leaves lower, projectLeaves files start,
      loader.globalLeaves files environment] := by
  obtain ⟨config', loaded', leaves⟩ := exists_load_of_sound lowercasing
    (projectSound_of_load loaded) (mem_logLevels_of_load loaded)
  cases loaded'.symm.trans loaded
  exact leaves

end Loader

end CodeBridge

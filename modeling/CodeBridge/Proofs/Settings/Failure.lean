import CodeBridge.Proofs.Settings.Loading
import Mathlib.Data.List.Find

/-! # Loads that fail

Log levels are checked in three places: in the project file and the environment, where one that is
none ends the load, and in the global file, which is then passed over. So the failures of a load are
those of the project file and, where it has none, that of the environment, and no load gives a level
that is none.
-/

namespace CodeBridge.Loader

open Settings

variable {loader : Loader} {files : Files} {environment : Environment} {start : Path}
  {error : SettingsError} {config : Config}

/-- An error is that of the project file or, where that file is right, that of the environment. -/
theorem load_eq_error_iff :
    (loader.load files environment start).2 = .error error ↔
      (∃ path, nearestFile? files start = some path ∧ Refuses files path error) ∨
      ProjectSound files start ∧ ∃ level, environment.logLevel = some level ∧
        level ∉ logLevels ∧ error = .invalidLevel ⟨"QUILL_LOG", level⟩ := by
  constructor
  · intro failed
    by_cases refused : ∃ path reason, nearestFile? files start = some path ∧
        Refuses files path reason
    · obtain ⟨path, reason, found, refused⟩ := refused
      cases (load_of_project_refused found refused).symm.trans failed
      exact .inl ⟨path, found, refused⟩
    · have sound : ProjectSound files start :=
        fun path reason found against => refused ⟨path, reason, found, against⟩
      obtain ⟨project, searched, -⟩ := exists_findProject_of_sound sound
      rw [load_answer, searched, ok_bind] at failed
      exact .inr ⟨sound, combine_eq_error_iff.mp failed⟩
  · rintro (⟨path, found, refused⟩ | ⟨sound, level, given, unknown, rfl⟩)
    · exact load_of_project_refused found refused
    · exact load_of_environment_invalid sound given unknown

/-- Neither a file nor the environment gets through with a log level that is none. -/
theorem logLevel_mem_of_load (loaded : (loader.load files environment start).2 = .ok config) :
    config.logLevel ∈ logLevels := by
  have leaves := leaves_of_load isLowercasing_toLower loaded
  have ofFile (path : Option Path) (level : String)
      (told : (path.elim {} (fileLeaves files)).logLevel = some level) : level ∈ logLevels := by
    cases path with
    | none => cases told
    | some path => exact mem_logLevels_of_fileLeaves told
  unfold Config.logLevel
  cases given : config.settings.logLevel? with
  | none => decide
  | some level =>
    have first : config.settings.leaves.logLevel = some level := given
    rw [leaves] at first
    obtain ⟨source, member, told⟩ := List.exists_of_findSome?_eq_some first
    simp only [List.mem_cons, List.not_mem_nil, or_false] at member
    rcases member with rfl | rfl | rfl
    · exact mem_logLevels_of_load loaded level told
    · exact ofFile _ level told
    · exact ofFile _ level told

/-- Both trees of files have the same at the places where a project file may lie. -/
def SameProjects (files other : Files) (start : Path) : Prop :=
  ∀ directory ∈ start.ancestors,
    other (directory.join projectFile) = files (directory.join projectFile)

theorem SameProjects.symm {other : Files} (same : SameProjects files other start) :
    SameProjects other files start :=
  fun directory above => (same directory above).symm

theorem nearestFile?_congr {other : Files} (same : SameProjects files other start) :
    nearestFile? other start = nearestFile? files start := by
  refine List.find?_congr fun path member => ?_
  obtain ⟨directory, above, rfl⟩ := List.mem_map.mp member
  exact Files.has_congr (same directory above)

theorem refuses_congr {other : Files} {path : Path} (same : other path = files path)
    (refused : Refuses files path error) : Refuses other path error := by
  cases refused with
  | missing read => exact .missing (same.trans read)
  | unreadable read there => exact .unreadable (same.trans read) there
  | malformed read decoded => exact .malformed (same.trans read) decoded
  | invalidLevel read decoded given unknown =>
    exact .invalidLevel (same.trans read) decoded given unknown

theorem SameProjects.found {other : Files} (same : SameProjects files other start)
    {path : Path} (found : nearestFile? files start = some path) :
    nearestFile? other start = some path ∧ other path = files path := by
  obtain ⟨directory, above, rfl⟩ := List.mem_map.mp (List.mem_of_find?_eq_some found)
  exact ⟨(nearestFile?_congr same).trans found, same directory above⟩

/-- Of the files only the project files can make a load fail, and of the environment only the log
level. -/
theorem load_eq_error_of_sameProjects {other : Files} (same : SameProjects files other start)
    {environment' : Environment} (sameLevel : environment'.logLevel = environment.logLevel)
    (loader' : Loader) (failed : (loader.load files environment start).2 = .error error) :
    (loader'.load other environment' start).2 = .error error := by
  rcases load_eq_error_iff.mp failed with ⟨path, found, refused⟩ | ⟨sound, level, given, bad⟩
  · obtain ⟨found', here⟩ := same.found found
    exact load_eq_error_iff.mpr (.inl ⟨path, found', refuses_congr here refused⟩)
  · refine load_eq_error_iff.mpr (.inr ⟨?_, level, sameLevel.trans given, bad⟩)
    intro path reason found' refused
    obtain ⟨found, here⟩ := same.symm.found found'
    exact sound path reason found (refuses_congr here refused)

/-- Loading fails exactly if the nearest project file is refused or the environment names a log
level that is none, and the error of the project file comes first. Neither a global file nor a home
directory has a say in that, there or not. Whatever is loaded has a log level that is one. -/
theorem load_fails_iff_project_or_environment (loader : Loader) (files : Files)
    (environment : Environment) (start : Path) :
    ((∃ error, (loader.load files environment start).2 = .error error) ↔
      (∃ path error, nearestFile? files start = some path ∧ Refuses files path error) ∨
      ∃ level, environment.logLevel = some level ∧ level ∉ logLevels) ∧
    (∀ error, (loader.load files environment start).2 = .error error ↔
      (∃ path, nearestFile? files start = some path ∧ Refuses files path error) ∨
      ProjectSound files start ∧ ∃ level, environment.logLevel = some level ∧
        level ∉ logLevels ∧ error = .invalidLevel ⟨"QUILL_LOG", level⟩) ∧
    (∀ (loader' : Loader) (files' : Files) (environment' : Environment),
      SameProjects files files' start → environment'.logLevel = environment.logLevel →
      ∀ error, (loader'.load files' environment' start).2 = .error error ↔
        (loader.load files environment start).2 = .error error) ∧
    ∀ config, (loader.load files environment start).2 = .ok config →
      config.logLevel ∈ logLevels := by
  refine ⟨⟨?_, ?_⟩, fun _ => load_eq_error_iff, ?_, fun _ => logLevel_mem_of_load⟩
  · rintro ⟨error, failed⟩
    rcases load_eq_error_iff.mp failed with ⟨path, found, refused⟩ | ⟨-, level, given, unknown, -⟩
    · exact .inl ⟨path, error, found, refused⟩
    · exact .inr ⟨level, given, unknown⟩
  · rintro (⟨path, error, found, refused⟩ | ⟨level, given, unknown⟩)
    · exact ⟨error, load_of_project_refused found refused⟩
    · cases outcome : (loader.load files environment start).2 with
      | error error => exact ⟨error, rfl⟩
      | ok config => exact absurd (mem_logLevels_of_load outcome level given) unknown
  · intro loader' files' environment' same sameLevel error
    exact ⟨load_eq_error_of_sameProjects same.symm sameLevel.symm loader,
      load_eq_error_of_sameProjects same sameLevel loader'⟩

end CodeBridge.Loader

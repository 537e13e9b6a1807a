import CodeBridge.Proofs.Settings.Loading

/-! # Which source a setting comes from

The environment comes before the nearest project file, and that before the global file. This holds
for each setting on its own: a source that has one setting of a section does not hide the others,
and a section that is there and empty hides nothing.
-/

namespace CodeBridge.Loader

open Settings

variable {loader : Loader} {files : Files} {environment : Environment} {start : Path}
  {config : Config}

/-- A file that names a snapshot has it seen from its own directory. -/
theorem exists_written_snapshot {file : Option Path} {snapshot : Path}
    (told : (file.elim {} (fileLeaves files)).snapshot = some snapshot) :
    ∃ path settings written, file = some path ∧ given? files path = some settings ∧
      settings.snapshot? = some written ∧ path.directory.join written = snapshot := by
  cases file with
  | none => cases told
  | some path =>
    rw [Option.elim_some, fileLeaves] at told
    split at told
    · next settings given =>
      obtain ⟨written, names, seen⟩ := Option.map_eq_some_iff.mp told
      exact ⟨path, settings, written, rfl, given, names, seen⟩
    · cases told

/-- Each setting is the one of the first source that has it: the environment, the nearest project
file, the global file. A snapshot of the environment is left as it was written. Any other is seen
from the directory of the file that names it, and never from that of the other file. -/
theorem load_takes_first_source {lower : String → String} (lowercasing : IsLowercasing lower)
    (loaded : (loader.load files environment start).2 = .ok config) :
    config.settings.leaves = .firstOf [environment.leaves lower, projectLeaves files start,
      loader.globalLeaves files environment] ∧
    (∀ text, environment.snapshot = some text → config.snapshot?.map Path.text = some text) ∧
    ∀ snapshot, environment.snapshot = none → config.snapshot? = some snapshot →
      ∃ path settings written,
        (nearestFile? files start = some path ∨ loader.globalPath? environment = some path) ∧
        given? files path = some settings ∧ settings.snapshot? = some written ∧
        path.directory.join written = snapshot := by
  have leaves := leaves_of_load lowercasing loaded
  have snapshots : config.snapshot? = (environment.snapshot.map Path.ofText).or
      ((projectLeaves files start).snapshot.or
        (loader.globalLeaves files environment).snapshot) := by
    change config.settings.leaves.snapshot = _
    rw [leaves]
    simp only [Leaves.firstOf, findSome?_cons_eq_or, List.findSome?_nil, Option.or_none,
      Environment.leaves]
  refine ⟨leaves, ?_, ?_⟩
  · intro text given
    rw [snapshots, given, Option.map_some, Option.some_or, Option.map_some, Path.text_ofText]
  · intro snapshot silent named
    rw [snapshots, silent, Option.map_none, Option.none_or, Option.or_eq_some_iff] at named
    rcases named with named | ⟨-, named⟩
    · obtain ⟨path, settings, written, nearest, rest⟩ := exists_written_snapshot named
      exact ⟨path, settings, written, .inl nearest, rest⟩
    · obtain ⟨path, settings, written, global, rest⟩ := exists_written_snapshot named
      exact ⟨path, settings, written, .inr global, rest⟩

/-- Three sources: a global file in the home directory, a project file above the start and the
environment. Both files name a snapshot, and the project file has a section that it leaves empty. -/
def layeredFiles : Files := fun path =>
  if path = .ofText "/home/.quill/config.toml" then
    .ok "[log]\nlevel = \"warn\"\n[engine]\nsnapshot = \"all.json\"\n[completion]\nenabled = false"
  else if path = .ofText "/work/quill.toml" then
    .ok "[engine]\nsnapshot = \"index.json\"\n[completion]\n[highlight]\nenabled = false"
  else .error .missing

def layeredEnvironment : Environment where
  home := some (.ofText "/home")
  snippets := some "Yes"

theorem load_takes_first_source_layered :
    ∃ config, (load {} layeredFiles layeredEnvironment (.ofText "/work/src/main")).2 = .ok config ∧
      config.settings.leaves =
        { logLevel := some "warn"
          snapshot := some (.ofText "/work/index.json")
          completionEnabled := some false
          snippets := some true
          highlightEnabled := some false } := by
  have ancestors : (Path.ofText "/work/src/main").ancestors =
      [.ofText "/work/src/main", .ofText "/work/src", .ofText "/work", .ofText "/"] := by cbv
  have nearest : nearestFile? layeredFiles (.ofText "/work/src/main") =
      some (.ofText "/work/quill.toml") := by
    rw [nearestFile?, ancestors]
    decide +kernel
  have project : given? layeredFiles (.ofText "/work/quill.toml") =
      some { engine := some ⟨some (.ofText "index.json")⟩, completion := some {},
             highlight := some ⟨some false⟩ } := by decide +kernel
  have remembered : globalPath? {} layeredEnvironment =
      some (.ofText "/home/.quill/config.toml") := by decide +kernel
  have global : given? layeredFiles (.ofText "/home/.quill/config.toml") =
      some { log := some ⟨some "warn"⟩, engine := some ⟨some (.ofText "all.json")⟩,
             completion := some ⟨some false, none⟩ } := by decide +kernel
  have sound : ProjectSound layeredFiles (.ofText "/work/src/main") := by
    intro path error found
    cases nearest.symm.trans found
    exact not_refuses_of_given project
  have valid : ∀ level ∈ layeredEnvironment.logLevel, level ∈ logLevels := by decide
  have success : ∃ config,
      (load {} layeredFiles layeredEnvironment (.ofText "/work/src/main")).2 = .ok config := by
    obtain ⟨config, loaded, -⟩ := exists_load_of_sound isLowercasing_toLower sound valid
    exact ⟨config, loaded⟩
  obtain ⟨config, loaded⟩ := success
  refine ⟨config, loaded, ?_⟩
  rw [(load_takes_first_source isLowercasing_toLower loaded).1, projectLeaves, nearest,
    globalLeaves, remembered, Option.elim_some, Option.elim_some, fileLeaves_of_given project,
    fileLeaves_of_given global]
  decide +kernel

end CodeBridge.Loader

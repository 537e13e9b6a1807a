import CodeBridge.Files.Access
import CodeBridge.Settings.Decode

/-! # Loading settings

Settings come from three sources, each over the one before: a global file in the home directory, the
nearest project file on the way up from a directory, and the environment. A project file has to be
right; a global file that is not is passed over.
-/

namespace CodeBridge

/-- Why settings cannot be loaded. -/
inductive SettingsError where
  | notFound (path : Path)
  | unreadable (fault : FileFault)
  | malformed (path : Path)
  | invalidLevel (invalid : InvalidLevel)
  deriving DecidableEq, Repr

def SettingsError.message : SettingsError → String
  | .notFound path => "Configuration file not found: " ++ path.text
  | .unreadable fault => "Failed to read configuration file: " ++ fault.message
  | .malformed path => "Invalid TOML syntax in " ++ path.text
  | .invalidLevel invalid => invalid.message

/-- What a process finds around it. -/
structure Environment where
  home : Option Path := none
  logLevel : Option String := none
  snapshot : Option String := none
  snippets : Option String := none
  deriving DecidableEq, Repr

/-- The settings of a run, and the directory of the project file if there is one. -/
structure Config where
  settings : Settings := {}
  projectRoot : Option Path := none
  deriving DecidableEq, Repr

namespace Config

def isProject (config : Config) : Bool := config.projectRoot.isSome
def logLevel (config : Config) : String := config.settings.logLevel?.getD "info"
def snapshot? (config : Config) : Option Path := config.settings.snapshot?
def completionEnabled (config : Config) : Bool := config.settings.completionEnabled?.getD true
def snippetsAllowed (config : Config) : Bool := config.settings.snippets?.getD true
def highlightEnabled (config : Config) : Bool := config.settings.highlightEnabled?.getD true
def definitionEnabled (config : Config) : Bool := config.settings.definitionEnabled?.getD true

end Config

namespace Settings

/-- The settings of a file. A relative snapshot path is seen from the directory of the file. -/
def load (files : Files) (path : Path) : Except SettingsError Settings := do
  let text ←
    match files path with
    | .ok text => pure text
    | .error .missing => throw (.notFound path)
    | .error fault => throw (.unreadable fault)
  match read text with
  | none => throw (.malformed path)
  | some settings =>
    settings.validate.mapError .invalidLevel
    return match path.parent? with
      | some directory => settings.resolveSnapshot directory
      | none => settings

/-- Name of a project file. -/
def projectFile : Path := .ofText "quill.toml"

/-- The nearest project file among some directories: its directory and its settings. -/
def nearest (files : Files) : List Path → Except SettingsError (Option (Path × Settings))
  | [] => .ok none
  | directory :: rest =>
    if files.has (directory.join projectFile) then do
      let settings ← load files (directory.join projectFile)
      return some (directory, settings)
    else nearest files rest

/-- The nearest project file on the way up from a directory. -/
def findProject (files : Files) (start : Path) : Except SettingsError (Option (Path × Settings)) :=
  nearest files start.ancestors

/-- Whether a text means yes, in letters of either case. -/
def isAffirmative (text : String) : Bool :=
  ["true", "1", "yes"].contains (text.map Char.toLower)

/-- The settings with those of the environment over them. -/
def withEnvironment (settings : Settings) (environment : Environment) :
    Except InvalidLevel Settings := do
  let settings ←
    match environment.logLevel with
    | some level => do
      checkLevel "QUILL_LOG" level
      pure (settings.setLogLevel level)
    | none => pure settings
  let settings :=
    match environment.snapshot with
    | some snapshot => settings.setSnapshot (.ofText snapshot)
    | none => settings
  return match environment.snippets with
    | some snippets => settings.setSnippets (isAffirmative snippets)
    | none => settings

end Settings

/-- The directory of the global file. -/
def Environment.globalDirectory? (environment : Environment) : Option Path :=
  environment.home.map (·.join (.ofText ".quill"))

/-- Loads settings; remembers where the global file is. -/
structure Loader where
  globalFile : Option Path := none
  deriving DecidableEq, Repr

namespace Loader

/-- The path of the global file: the remembered one, else the one in the home directory. -/
def globalPath? (loader : Loader) (environment : Environment) : Option Path :=
  loader.globalFile.or (environment.globalDirectory?.map (·.join (.ofText "config.toml")))

/-- The settings of the global file; none at all if it is missing or not right. -/
def globalSettings (loader : Loader) (files : Files) (environment : Environment) : Settings :=
  match loader.globalPath? environment with
  | none => {}
  | some path =>
    if files.has path then
      match Settings.load files path with
      | .ok settings => settings
      | .error _ => {}
    else {}

/-- The settings of the sources, in the order of their weight. -/
def combine (loader : Loader) (files : Files) (environment : Environment)
    (project : Option (Path × Settings)) : Except SettingsError Config := do
  let base := loader.globalSettings files environment
  let settings := base.merge ((project.map Prod.snd).getD {})
  let settings ← (settings.withEnvironment environment).mapError .invalidLevel
  return { settings := settings, projectRoot := project.map Prod.fst }

/-- Loads the settings for a directory. The global file is only looked for once the project file is
found to be right, and its path is remembered from then on. -/
def load (loader : Loader) (files : Files) (environment : Environment) (start : Path) :
    Loader × Except SettingsError Config :=
  match Settings.findProject files start with
  | .error error => (loader, .error error)
  | .ok project =>
    (⟨loader.globalPath? environment⟩, loader.combine files environment project)

end Loader

end CodeBridge

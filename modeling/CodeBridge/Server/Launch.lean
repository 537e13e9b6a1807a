import CodeBridge.Server.Session
import CodeBridge.Snapshot.Load

/-! # Starting the server

A server starts in a working directory: it loads its settings and, if they name a snapshot, the
workspace of it. Without a snapshot it serves an empty workspace.
-/

namespace CodeBridge

/-- Why the server does not start. -/
inductive LaunchError where
  | settings (error : SettingsError)
  | snapshot (path : Path) (error : SnapshotError)
  deriving DecidableEq, Repr

/-- What went wrong, in one line. -/
def LaunchError.headline : LaunchError → String
  | .settings _ => "Failed to load configuration"
  | .snapshot path _ => "Failed to load engine snapshot " ++ path.text

/-- Why it went wrong. -/
def LaunchError.cause : LaunchError → String
  | .settings error => error.message
  | .snapshot _ error => error.toEngineError.message

/-- All paths at which the settings for a working directory can lie. -/
def settingsPaths (environment : Environment) (workingDirectory : Path) : List Path :=
  workingDirectory.ancestors.map (·.join Settings.projectFile) ++
    (({} : Loader).globalPath? environment).toList

/-- The workspace that the settings ask for. -/
def openWorkspace (files : Files) (config : Config) : Except LaunchError Workspace :=
  match config.snapshot? with
  | some path => (Workspace.load files path).mapError (.snapshot path)
  | none => .ok .empty

/-- The settings for a working directory. -/
def loadConfig (files : Files) (environment : Environment) (workingDirectory : Path) :
    Except LaunchError Config :=
  (({} : Loader).load files environment workingDirectory).2.mapError .settings

/-- The session that a server starts with. -/
def launch (files : Files) (environment : Environment) (workingDirectory : Path) :
    Except LaunchError (Session Workspace) := do
  let config ← loadConfig files environment workingDirectory
  let workspace ← openWorkspace files config
  return { config := config, backend := workspace }

end CodeBridge

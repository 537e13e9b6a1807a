import CodeBridge.Files.Access
import CodeBridge.Snapshot.Decode

/-! # Loading snapshots from files -/

namespace CodeBridge

/-- Why a file gives no workspace. -/
inductive SnapshotError where
  | unreadable (path : Path) (fault : FileFault)
  | malformed (path : Path)
  | dangling (dangling : DanglingLink)
  deriving DecidableEq, Repr

/-- As the reason of an engine. -/
def SnapshotError.toEngineError : SnapshotError → EngineError
  | .unreadable path fault => .snapshot (path.text ++ ": " ++ fault.message)
  | .malformed path => .snapshot (path.text ++ ": not a snapshot")
  | .dangling link => link.toEngineError

/-- The workspace that the snapshot in a file describes. -/
def Workspace.load (files : Files) (path : Path) : Except SnapshotError Workspace := do
  match files path with
  | .error fault => throw (.unreadable path fault)
  | .ok text =>
    match Snapshot.read text with
    | none => throw (.malformed path)
    | some snapshot => snapshot.toWorkspace.mapError .dangling

end CodeBridge

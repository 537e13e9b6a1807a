import CodeBridge.Files.Path

/-! # Reading files

All that a program needs of a file system is what reading a path gives: a text, or the reason why
there is none. The reason also tells whether something is known to exist at the path.
-/

namespace CodeBridge

/-- Why a path cannot be read as text. -/
inductive FileFault where
  | missing
  /-- A name on the way is not that of a directory. -/
  | notDirectory
  /-- The system does not even tell whether something is there, as behind a directory that may not
  be searched or under a name that is too long; in its words. -/
  | outOfReach (reason : String)
  | isDirectory
  | notText
  /-- Any other refusal to read what is there, in the words of the system. -/
  | refused (reason : String)
  deriving DecidableEq, Repr

def FileFault.message : FileFault → String
  | .missing => "No such file or directory (os error 2)"
  | .notDirectory => "Not a directory (os error 20)"
  | .outOfReach reason => reason
  | .isDirectory => "Is a directory (os error 21)"
  | .notText => "stream did not contain valid UTF-8"
  | .refused reason => reason

/-- What reading each path gives. -/
abbrev Files := Path → Except FileFault String

/-- Whether there is known to be something at a path, readable or not. -/
def Files.has (files : Files) (path : Path) : Bool :=
  match files path with
  | .error .missing | .error .notDirectory | .error (.outOfReach _) => false
  | _ => true

end CodeBridge

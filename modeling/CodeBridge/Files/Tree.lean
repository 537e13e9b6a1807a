import CodeBridge.Files.Access

/-! # A file tree in memory

Files and directories by the names on the way to them from the root. Paths are followed as a Unix
system follows them: name by name, each in a directory that has to exist.
-/

namespace CodeBridge

/-- Names on the way from the root to a place. -/
abbrev Place := List String

/-- Files with their bytes, and directories that may be empty. A directory also exists if something
lies in it. -/
structure FileTree where
  files : List (Place × ByteArray) := []
  directories : List Place := []

namespace FileTree

/-- Bytes that a name may have. -/
def maxNameBytes : Nat := 255

def isDirectory (tree : FileTree) (place : Place) : Bool :=
  place.isEmpty || tree.directories.any (place.isPrefixOf ·) ||
    tree.files.any fun (file, _) => place.isPrefixOf file.dropLast

/-- Whether there is a file or a directory at a place. -/
def has (tree : FileTree) (place : Place) : Bool :=
  tree.isDirectory place || tree.files.any (·.1 == place)

/-- The place that the segments of a path lead to from another place. -/
def follow (tree : FileTree) : Place → List String → Except FileFault Place
  | here, [] => .ok here
  | here, segment :: rest =>
    if !tree.isDirectory here then .error .notDirectory
    else if Path.isIdle segment then tree.follow here rest
    else if segment = ".." then tree.follow here.dropLast rest
    else if maxNameBytes < segment.utf8ByteSize then
      .error (.outOfReach "File name too long (os error 36)")
    else if tree.has (here ++ [segment]) then tree.follow (here ++ [segment]) rest
    else .error .missing

/-- What reading a path gives in a working directory. -/
def read (tree : FileTree) (workingDirectory : Place) (path : Path) : Except FileFault String :=
  if path = .empty then .error .missing
  else if path.text.contains '\x00' then
    .error (.outOfReach "file name contained an unexpected NUL byte")
  else do
    let start := if path.isAbsolute then [] else workingDirectory
    let place ← tree.follow start path.segments
    if tree.isDirectory place then throw .isDirectory
    else
      match (tree.files.lookup place).bind String.fromUTF8? with
      | some text => return text
      | none => throw .notText

end FileTree

end CodeBridge

import CodeBridge.Server.Conversation
import CodeBridge.Server.Launch

/-! # The server process

Starts the server in the working directory of the process and talks to one client over standard
input and output, each message behind a header that tells its length. Everything that is decided is
decided elsewhere; here files and streams are read and written.
-/

namespace CodeBridge

/-- The fault that an error names by itself. The system may give its number negated. -/
def FileFault.ofError? : IO.Error → Option FileFault
  | .noFileOrDirectory .. => some .missing
  | .inappropriateType _ code _ =>
    if code = 20 ∨ code = -20 then some .notDirectory
    else if code = 21 ∨ code = -21 then some .isDirectory
    else none
  | _ => none

/-- What reading a path gives in the file system of the process. -/
def readPath (path : Path) : IO (Except FileFault String) := do
  try
    match String.fromUTF8? (← IO.FS.readBinFile path.text) with
    | some text => return .ok text
    | none => return .error .notText
  catch error =>
    match FileFault.ofError? error with
    | some fault => return .error fault
    | none =>
      -- The error is the same for a file that may not be read and for one behind a directory that
      -- may not be searched; only the first can be asked about.
      let reason := toString error
      if ← (System.mkFilePath [path.text]).pathExists then return .error (.refused reason)
      else return .error (.outOfReach reason)

/-- The files at some paths; everything else counts as missing. -/
def readPaths (paths : List Path) : IO Files := do
  let table ← paths.mapM fun path => return (path, ← readPath path)
  return fun path => (table.lookup path).getD (.error .missing)

def readEnvironment : IO Environment := do
  let home ← IO.getEnv "HOME"
  return {
    home := (home.filter (!·.isEmpty)).map .ofText
    logLevel := ← IO.getEnv "QUILL_LOG"
    snapshot := ← IO.getEnv "QUILL_SNAPSHOT"
    snippets := ← IO.getEnv "QUILL_SNIPPETS" }

/-- Reads the files that the server starts from, and starts it. -/
def launchProcess : IO (Except LaunchError (Session Workspace)) := do
  let workingDirectory := Path.ofText (← IO.currentDir).toString
  let environment ← readEnvironment
  let paths := settingsPaths environment workingDirectory
  let snapshot :=
    match loadConfig (← readPaths paths) environment workingDirectory with
    | .ok config => config.snapshot?.toList
    | .error _ => []
  return launch (← readPaths (paths ++ snapshot)) environment workingDirectory

/-- The length that a header line gives, if it gives one. -/
def contentLength? (line : String) : Option Nat :=
  match line.splitOn ":" with
  | [name, value] =>
    if name.trimAscii.copy.map Char.toLower = "content-length" then value.trimAscii.copy.toNat?
    else none
  | _ => none

/-- The length of the next message, from its header; none at the end of the input. -/
partial def readHeader (input : IO.FS.Stream) (length : Option Nat) : IO (Option Nat) := do
  let line ← input.getLine
  if line.isEmpty then return none
  if line.trimAscii.isEmpty then
    match length with
    | some length => return some length
    | none => readHeader input none
  else readHeader input ((contentLength? line).or length)

/-- A number of bytes, or those that are left. -/
partial def readBytes (input : IO.FS.Stream) (count : Nat) (read : ByteArray) : IO ByteArray := do
  if count ≤ read.size then return read
  let chunk ← input.read (.ofNat (count - read.size))
  if chunk.isEmpty then return read else readBytes input count (read ++ chunk)

def send (output : IO.FS.Stream) (value : Json) : IO Unit := do
  let body := value.write
  output.putStr ("Content-Length: " ++ toString body.utf8ByteSize ++ "\r\n\r\n" ++ body)
  output.flush

/-- The answer to something that is not JSON. -/
def parseError : Json :=
  rpcResponse .null (.error ⟨-32700, "Parse error"⟩)

/-- Talks to the client until the conversation or the input is over. -/
partial def talk (input output : IO.FS.Stream) (conversation : Conversation) : IO Unit := do
  match ← readHeader input none with
  | none => return
  | some length =>
    match (String.fromUTF8? (← readBytes input length .empty)).bind Json.read with
    | none =>
      send output parseError
      talk input output conversation
    | some value =>
      match Message.ofJson? value with
      | none => talk input output conversation
      | some message =>
        let (conversation, reply) := conversation.step message
        (Conversation.outgoing message reply).forM (send output)
        if conversation.phase = .over then return
        talk input output conversation

end CodeBridge

open CodeBridge in
def main : IO UInt32 := do
  match ← launchProcess with
  | .error error =>
    IO.eprintln ("Error: " ++ error.headline ++ "\n\nCaused by:\n    " ++ error.cause)
    return 1
  | .ok session =>
    talk (← IO.getStdin) (← IO.getStdout) { session := session }
    return 0

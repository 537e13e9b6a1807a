import CodeBridge.Json.Record
import CodeBridge.Server.Session
import CodeBridge.Snapshot.Encode

/-! # Messages on the wire

The JSON form of what the server sends to its client, and of the part of the client's greeting that
the server looks at.
-/

namespace CodeBridge

def Position.toJson (position : Position) : Json :=
  .object [("line", .nat position.line.toNat), ("character", .nat position.character.toNat)]

def PositionRange.toJson (range : PositionRange) : Json :=
  .object [("start", range.start.toJson), ("end", range.stop.toJson)]

def Location.toJson (location : Location) : Json :=
  .object [("uri", location.uri.toJson), ("range", location.range.toJson)]

def HighlightKind.code : HighlightKind → Nat
  | .text => 1
  | .read => 2
  | .write => 3

def Highlight.toJson (highlight : Highlight) : Json :=
  .object [("range", highlight.range.toJson), ("kind", .nat highlight.kind.code)]

def ItemKind.code : ItemKind → Nat
  | .method => 2
  | .field => 5
  | .localVar => 6
  | .classType => 7
  | .package => 9

def InsertFormat.code : InsertFormat → Nat
  | .plainText => 1
  | .snippet => 2

def CompletionItem.toJson (item : CompletionItem) : Json :=
  .object [
    ("label", .string item.label),
    ("kind", .nat item.kind.code),
    ("documentation", .string item.documentation),
    ("insertText", .string item.insertText),
    ("insertTextFormat", .nat item.insertFormat.code)]

def RpcError.toJson (error : RpcError) : Json :=
  .object [("code", .integer error.code), ("message", .string error.message)]

/-- A capability that is not there is left out. -/
def Capabilities.toJson (capabilities : Capabilities) : Json :=
  .object (
    (if capabilities.completion then [("completionProvider", .object [])] else []) ++
    (if capabilities.definition then [("definitionProvider", .bool true)] else []) ++
    (if capabilities.highlight then [("documentHighlightProvider", .bool true)] else []))

/-- What the server says about itself when a client arrives. -/
def Capabilities.welcome (capabilities : Capabilities) : Json :=
  .object [
    ("capabilities", capabilities.toJson),
    ("serverInfo", .object [("name", .string "quill-lsp"), ("version", .string "0.1.0")])]

/-- The answer to a request, with its identifier. -/
def rpcResponse (id : Json) (answer : Except RpcError Json) : Json :=
  .object [("jsonrpc", .string "2.0"),
    (match answer with
      | .ok result => ("result", result)
      | .error error => ("error", error.toJson)),
    ("id", id)]

/-- Messages are informative, neither warnings nor errors. -/
def Notice.severity : Nat := 3

def Notice.method : Notice → String
  | .log _ => "window/logMessage"
  | .toUser _ => "window/showMessage"

def Notice.text : Notice → String
  | .log text | .toUser text => text

def Notice.toJson (notice : Notice) : Json :=
  .object [
    ("method", .string notice.method),
    ("params", .object [("type", .nat severity), ("message", .string notice.text)])]

/-- A notice as a message of its own. -/
def Notice.rpcMessage (notice : Notice) : Json :=
  match notice.toJson with
  | .object members => .object (("jsonrpc", .string "2.0") :: members)
  | value => value

/-- A list, or `null` for a feature that is switched off. -/
def Response.toJson? (encode : α → Json) (response : Response α) : Except RpcError Json :=
  response.result.map (.orNull (.list encode))

/-- A part of the client's greeting: named in an object, or at its position in an array. -/
structure GreetingPart where
  name : String
  position : Nat

def GreetingPart.find? (part : GreetingPart) : Json → Option Json
  | .object members => members.lookup part.name
  | .array items => items[part.position]?
  | _ => none

/-- Where the parameters of a greeting have the capabilities of the client. -/
def capabilitiesPart : GreetingPart := ⟨"capabilities", 4⟩

/-- Where the capabilities of a client tell whether it knows snippets. -/
def snippetsPath : List GreetingPart :=
  [⟨"textDocument", 1⟩, ⟨"completion", 1⟩, ⟨"completionItem", 1⟩, ⟨"snippetSupport", 0⟩]

/-- Whether the capabilities of a client say that it knows snippets. -/
def clientKnowsSnippets (capabilities : Json) : Bool :=
  match snippetsPath.foldlM (fun value part => part.find? value) capabilities with
  | some (.bool known) => known
  | _ => false

end CodeBridge

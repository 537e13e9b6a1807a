import CodeBridge.Json.Writer
import CodeBridge.Snapshot.Basic

/-! # Snapshots as JSON

Every record is written as an object with all of its fields; an absent value is `null`. The kind of
a declaration stands first among its fields.
-/

namespace CodeBridge

def Uri.toJson (uri : Uri) : Json := .string uri.text

def Span.toJson (span : Span) : Json :=
  .object [("start", .nat span.start), ("end", .nat span.stop)]

def SymbolId.toJson (id : SymbolId) : Json := .nat id.index

def Access.name : Access → String
  | .read => "read"
  | .write => "write"

def SymbolKind.name : SymbolKind → String
  | .method => "method"
  | .classType => "class"
  | .field => "field"
  | .localVar => "variable"
  | .parameter => "parameter"
  | .package => "package"

def SymbolLocation.toJson (location : SymbolLocation) : Json :=
  .object [("uri", location.uri.toJson), ("text_offset", .orNull .nat location.textOffset)]

def SymbolDefinition.toJson (definition : SymbolDefinition) : Json :=
  .object [
    ("name", .string definition.name),
    ("kind", .string definition.kind.name),
    ("location", definition.location.toJson),
    ("name_range", .orNull Span.toJson definition.nameRange),
    ("super_methods", .list SymbolId.toJson definition.superMethods),
    ("declaration_writes", .bool definition.declarationWrites)]

def SymbolReference.toJson (reference : SymbolReference) : Json :=
  .object [
    ("uri", reference.uri.toJson),
    ("range", reference.range.toJson),
    ("targets", .list SymbolId.toJson reference.targets),
    ("access", .string reference.access.name)]

def HighlightRegion.toJson (region : HighlightRegion) : Json :=
  .object [
    ("uri", region.uri.toJson),
    ("trigger", region.trigger.toJson),
    ("feature_id", .orNull .string region.featureId),
    ("reads", .list Span.toJson region.reads),
    ("writes", .list Span.toJson region.writes)]

def Document.toJson (document : Document) : Json :=
  .object [
    ("uri", document.uri.toJson),
    ("text", .string document.text),
    ("host", .orNull Uri.toJson document.host)]

def Parameter.toJson (parameter : Parameter) : Json :=
  .object [("type_name", .string parameter.typeName), ("name", .string parameter.name)]

def Declaration.toJson : Declaration → Json
  | .method name parameters returnType doc =>
    .object [
      ("kind", .string "method"),
      ("name", .string name),
      ("parameters", .list Parameter.toJson parameters),
      ("return_type", .orNull .string returnType),
      ("doc", .orNull .string doc)]
  | .classType name qualifiedName presentation doc =>
    .object [
      ("kind", .string "class"),
      ("name", .string name),
      ("qualified_name", .orNull .string qualifiedName),
      ("presentation", .string presentation),
      ("doc", .orNull .string doc)]
  | .field name typeName doc =>
    .object [
      ("kind", .string "field"),
      ("name", .string name),
      ("type_name", .string typeName),
      ("doc", .orNull .string doc)]
  | .localVar name typeName =>
    .object [("kind", .string "variable"), ("name", .string name), ("type_name", .string typeName)]
  | .package qualifiedName =>
    .object [("kind", .string "package"), ("qualified_name", .string qualifiedName)]
  | .other => .object [("kind", .string "other")]

def Candidate.toJson (candidate : Candidate) : Json :=
  .object [
    ("raw_label", .string candidate.rawLabel),
    ("declaration", candidate.declaration.toJson)]

def CompletionEntry.toJson (entry : CompletionEntry) : Json :=
  .object [
    ("uri", entry.uri.toJson),
    ("candidates", .list Candidate.toJson entry.candidates)]

namespace Snapshot

def toJson (snapshot : Snapshot) : Json :=
  .object [
    ("documents", .list Document.toJson snapshot.documents),
    ("symbols", .list SymbolDefinition.toJson snapshot.symbols),
    ("references", .list SymbolReference.toJson snapshot.references),
    ("highlighters", .list HighlightRegion.toJson snapshot.highlighters),
    ("completions", .list CompletionEntry.toJson snapshot.completions)]

/-- A snapshot as the text that is stored. -/
def write (snapshot : Snapshot) : String :=
  snapshot.toJson.write

end Snapshot

end CodeBridge

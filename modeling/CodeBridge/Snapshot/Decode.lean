import CodeBridge.Json.Reader
import CodeBridge.Json.Record
import CodeBridge.Snapshot.Basic
import CodeBridge.Uri.Parse

/-! # Snapshots from JSON

Fields that have a natural default may be left out. The three records of a snapshot itself (the
whole, a document, the candidates of a document) admit no other keys than their fields; the records
in them skip keys that they do not know.

The fields of a declaration are only told apart once its kind is known, so a declaration is read as
a whole first. That is why all of it, skipped keys included, has to be plain and may not be nested
too deep; `level` counts the arrays and objects around it.
-/

namespace CodeBridge

open Json

def Uri.ofJson? (value : Json) : Option Uri :=
  value.text?.bind Uri.parse?

def Span.ofJson? (value : Json) : Option Span := do
  let record ← Record.of? ["start", "end"] false value
  let start ← record.required "start" offset?
  let stop ← record.required "end" offset?
  return ⟨start, stop⟩

def SymbolId.ofJson? (value : Json) : Option SymbolId :=
  value.uint32?.map .mk

def Access.ofName? : String → Option Access
  | "read" => some .read
  | "write" => some .write
  | _ => none

def Access.ofJson? : Json → Option Access :=
  choice? Access.ofName?

def SymbolKind.ofName? : String → Option SymbolKind
  | "method" => some .method
  | "class" => some .classType
  | "field" => some .field
  | "variable" => some .localVar
  | "parameter" => some .parameter
  | "package" => some .package
  | _ => none

def SymbolKind.ofJson? : Json → Option SymbolKind :=
  choice? SymbolKind.ofName?

def SymbolLocation.ofJson? (value : Json) : Option SymbolLocation := do
  let record ← Record.of? ["uri", "text_offset"] false value
  let uri ← record.required "uri" Uri.ofJson?
  let textOffset ← record.nullable "text_offset" offset?
  return ⟨uri, textOffset⟩

def SymbolDefinition.ofJson? (value : Json) : Option SymbolDefinition := do
  let record ← Record.of?
    ["name", "kind", "location", "name_range", "super_methods", "declaration_writes"] false value
  let name ← record.required "name" text?
  let kind ← record.required "kind" SymbolKind.ofJson?
  let location ← record.required "location" SymbolLocation.ofJson?
  let nameRange ← record.optional "name_range" Span.ofJson?
  let superMethods ← record.withDefault "super_methods" (list? SymbolId.ofJson?) []
  let declarationWrites ← record.withDefault "declaration_writes" bool? false
  return ⟨name, kind, location, nameRange, superMethods, declarationWrites⟩

def SymbolReference.ofJson? (value : Json) : Option SymbolReference := do
  let record ← Record.of? ["uri", "range", "targets", "access"] false value
  let uri ← record.required "uri" Uri.ofJson?
  let range ← record.required "range" Span.ofJson?
  let targets ← record.required "targets" (list? SymbolId.ofJson?)
  let access ← record.withDefault "access" Access.ofJson? .read
  return ⟨uri, range, targets, access⟩

def HighlightRegion.ofJson? (value : Json) : Option HighlightRegion := do
  let record ← Record.of? ["uri", "trigger", "feature_id", "reads", "writes"] false value
  let uri ← record.required "uri" Uri.ofJson?
  let trigger ← record.required "trigger" Span.ofJson?
  let featureId ← record.optional "feature_id" text?
  let reads ← record.withDefault "reads" (list? Span.ofJson?) []
  let writes ← record.withDefault "writes" (list? Span.ofJson?) []
  return ⟨uri, trigger, featureId, reads, writes⟩

def Document.ofJson? (value : Json) : Option Document := do
  let record ← Record.of? ["uri", "text", "host"] true value
  let uri ← record.required "uri" Uri.ofJson?
  let text ← record.required "text" text?
  let host ← record.optional "host" Uri.ofJson?
  return ⟨uri, text, host⟩

def Parameter.ofJson? (value : Json) : Option Parameter := do
  let record ← Record.of? ["type_name", "name"] false value
  let typeName ← record.required "type_name" text?
  let name ← record.required "name" text?
  return ⟨typeName, name⟩

namespace Declaration

/-- Deepest nesting of a text that holds a declaration. -/
def maxDepth : Nat := 127

/-- The kind of a declaration, and the rest of it: an object names its kind in one of its members,
an array in its first item. -/
def splitKind? : Json → Option (String × Json)
  | .object members =>
    match members.filter (·.1 = "kind") with
    | [(_, .string kind)] => some (kind, .object (members.filter (·.1 ≠ "kind")))
    | _ => none
  | .array (.string kind :: items) => some (kind, .array items)
  | _ => none

/-- A declaration of which nothing is kept; as an array it has nothing but its kind. -/
def unknown? : Json → Option Declaration
  | .array (_ :: _) => none
  | _ => some .other

/-- The declaration of a kind, from its fields. -/
def ofFields? (kind : String) (fields : Json) : Option Declaration :=
  match kind with
  | "method" => do
    let record ← Record.of? ["name", "parameters", "return_type", "doc"] false fields
    let name ← record.required "name" text?
    let parameters ← record.withDefault "parameters" (list? Parameter.ofJson?) []
    let returnType ← record.optional "return_type" text?
    let doc ← record.optional "doc" text?
    return .method name parameters returnType doc
  | "class" => do
    let record ← Record.of? ["name", "qualified_name", "presentation", "doc"] false fields
    let name ← record.required "name" text?
    let qualifiedName ← record.optional "qualified_name" text?
    let presentation ← record.required "presentation" text?
    let doc ← record.optional "doc" text?
    return .classType name qualifiedName presentation doc
  | "field" => do
    let record ← Record.of? ["name", "type_name", "doc"] false fields
    let name ← record.required "name" text?
    let typeName ← record.required "type_name" text?
    let doc ← record.optional "doc" text?
    return .field name typeName doc
  | "variable" => do
    let record ← Record.of? ["name", "type_name"] false fields
    let name ← record.required "name" text?
    let typeName ← record.required "type_name" text?
    return .localVar name typeName
  | "package" => do
    let record ← Record.of? ["qualified_name"] false fields
    let qualifiedName ← record.required "qualified_name" text?
    return .package qualifiedName
  | _ => unknown? fields

def ofJson? (level : Nat) (value : Json) : Option Declaration :=
  if value.isPlain ∧ level + value.depth ≤ maxDepth then do
    let (kind, fields) ← splitKind? value
    ofFields? kind fields
  else none

end Declaration

def Candidate.ofJson? (level : Nat) (value : Json) : Option Candidate := do
  let record ← Record.of? ["raw_label", "declaration"] false value
  let rawLabel ← record.required "raw_label" text?
  let declaration ← record.required "declaration" (Declaration.ofJson? (level + 1))
  return ⟨rawLabel, declaration⟩

def CompletionEntry.ofJson? (level : Nat) (value : Json) : Option CompletionEntry := do
  let record ← Record.of? ["uri", "candidates"] true value
  let uri ← record.required "uri" Uri.ofJson?
  let candidates ← record.required "candidates" (list? (Candidate.ofJson? (level + 2)))
  return ⟨uri, candidates⟩

namespace Snapshot

def ofJson? (value : Json) : Option Snapshot := do
  let record ← Record.of?
    ["documents", "symbols", "references", "highlighters", "completions"] true value
  let documents ← record.withDefault "documents" (list? Document.ofJson?) []
  let symbols ← record.withDefault "symbols" (list? SymbolDefinition.ofJson?) []
  let references ← record.withDefault "references" (list? SymbolReference.ofJson?) []
  let highlighters ← record.withDefault "highlighters" (list? HighlightRegion.ofJson?) []
  let completions ← record.withDefault "completions" (list? (CompletionEntry.ofJson? 2)) []
  return ⟨documents, symbols, references, highlighters, completions⟩

/-- The snapshot that a text stores. -/
def read (text : String) : Option Snapshot :=
  (Json.read text).bind ofJson?

end Snapshot

end CodeBridge

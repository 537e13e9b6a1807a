import CodeBridge.Engine.Basic
import CodeBridge.Text.Identifier

/-! # The workspace in memory

An engine over plain tables of documents, declarations, references, highlight regions and completion
candidates. Entries are only ever added, and a look-up takes the first entry that fits; of documents
the last one added under a URI counts.

References are also indexed by document. `Workspace.ready` stands for a background index: while it
is off, the answers that need it are refused.
-/

namespace CodeBridge

/-- For each document, the places of its references in the table, in increasing order. -/
structure ReferenceIndex where
  entries : List (Uri × List Nat) := []
  deriving DecidableEq, Repr

namespace ReferenceIndex

def places (index : ReferenceIndex) (uri : Uri) : List Nat :=
  (index.entries.lookup uri).getD []

/-- Adds a place at the end of a document's list. -/
def insertIn (uri : Uri) (place : Nat) : List (Uri × List Nat) → List (Uri × List Nat)
  | [] => [(uri, [place])]
  | (known, places) :: rest =>
    if uri = known then (known, places ++ [place]) :: rest
    else (known, places) :: insertIn uri place rest

def insert (index : ReferenceIndex) (uri : Uri) (place : Nat) : ReferenceIndex :=
  ⟨insertIn uri place index.entries⟩

end ReferenceIndex

/-- The tables of a workspace. -/
structure Workspace where
  /-- Newest first. -/
  documents : List Document := []
  symbols : List SymbolDefinition := []
  references : List SymbolReference := []
  referenceIndex : ReferenceIndex := {}
  highlighters : List HighlightRegion := []
  completions : List (Uri × Candidate) := []
  ready : Bool := true
  /-- Names of the features that were used, oldest first. -/
  featureUses : List String := []
  deriving DecidableEq, Repr

namespace Workspace

/-- A workspace without entries; its index is ready. -/
def empty : Workspace := {}

/-! ## Changes -/

def addDocument (workspace : Workspace) (document : Document) : Workspace :=
  { workspace with documents := document :: workspace.documents }

/-- The number that the next declaration gets. -/
def nextSymbol (workspace : Workspace) : SymbolId :=
  .ofIndex workspace.symbols.length

def addSymbol (workspace : Workspace) (definition : SymbolDefinition) : Workspace :=
  { workspace with symbols := workspace.symbols ++ [definition] }

def addReference (workspace : Workspace) (reference : SymbolReference) : Workspace :=
  { workspace with
    references := workspace.references ++ [reference]
    referenceIndex := workspace.referenceIndex.insert reference.uri workspace.references.length }

def addHighlighter (workspace : Workspace) (region : HighlightRegion) : Workspace :=
  { workspace with highlighters := workspace.highlighters ++ [region] }

def addCompletion (workspace : Workspace) (uri : Uri) (candidate : Candidate) : Workspace :=
  { workspace with completions := workspace.completions ++ [(uri, candidate)] }

def setReady (workspace : Workspace) (ready : Bool) : Workspace :=
  { workspace with ready := ready }

def recordFeature (workspace : Workspace) (featureId : String) : Workspace :=
  { workspace with featureUses := workspace.featureUses ++ [featureId] }

/-- Everything that can happen to a workspace. -/
inductive Change where
  /-- A document of its own, or one that is injected into another. -/
  | document (document : Document)
  | symbol (definition : SymbolDefinition)
  /-- A reference; a plain use of a symbol is one with a single target. -/
  | reference (reference : SymbolReference)
  | highlighter (region : HighlightRegion)
  | completion (uri : Uri) (candidate : Candidate)
  | ready (ready : Bool)
  | feature (featureId : String)
  deriving DecidableEq, Repr

def apply (workspace : Workspace) : Change → Workspace
  | .document document => workspace.addDocument document
  | .symbol definition => workspace.addSymbol definition
  | .reference reference => workspace.addReference reference
  | .highlighter region => workspace.addHighlighter region
  | .completion uri candidate => workspace.addCompletion uri candidate
  | .ready ready => workspace.setReady ready
  | .feature featureId => workspace.recordFeature featureId

/-- A workspace after a run of changes. -/
def run (workspace : Workspace) (changes : List Change) : Workspace :=
  changes.foldl apply workspace

/-! ## Look-ups -/

/-- The document under a URI: the last one that was added. -/
def document? (workspace : Workspace) (uri : Uri) : Option Document :=
  workspace.documents.find? (·.uri = uri)

def symbol? (workspace : Workspace) (id : SymbolId) : Option SymbolDefinition :=
  workspace.symbols[id.index]?

/-- The references of a document, in the order in which they were added. -/
def referencesIn (workspace : Workspace) (uri : Uri) : List SymbolReference :=
  (workspace.referenceIndex.places uri).filterMap (workspace.references[·]?)

/-- The first reference of a document over an offset. -/
def referenceOver (workspace : Workspace) (uri : Uri) (offset : Nat) : Option SymbolReference :=
  (workspace.referencesIn uri).find? (·.range.contains offset)

/-- The first entry that stands where a reference stands. -/
def entryOf (workspace : Workspace) (reference : Reference) : Option SymbolReference :=
  (workspace.referencesIn reference.uri).find? (·.range = reference.range)

/-- The first declaration whose name stands over an offset. -/
def declarationAt (workspace : Workspace) (uri : Uri) (offset : Nat) : Option SymbolId :=
  (workspace.symbols.findIdx? (·.covers uri offset)).map .ofIndex

/-- The first declaration whose name stands at exactly a span. -/
def declarationNamed (workspace : Workspace) (uri : Uri) (span : Span) : Option SymbolId :=
  (workspace.symbols.findIdx? (·.isNamedAt uri span)).map .ofIndex

/-- Refuses an operation while the index is not ready. -/
def requireIndex (workspace : Workspace) (operation : String) : Except EngineError Unit :=
  if workspace.ready then .ok () else .error (.indexNotReady operation)

/-- The declaration of a symbol that should exist. -/
def checkSymbol (workspace : Workspace) (id : SymbolId) : Except EngineError SymbolDefinition :=
  match workspace.symbol? id with
  | some definition => .ok definition
  | none => .error (.internal ("unknown symbol " ++ toString id.index))

/-- The node of a whole document. -/
def fileNode (workspace : Workspace) (uri : Uri) : Option SyntaxNode :=
  (workspace.document? uri).map fun document =>
    ⟨uri, ⟨0, Text.unitLength document.text⟩, .file⟩

/-! ## Answers -/

def referenceAt (workspace : Workspace) (uri : Uri) (offset : Nat) : Option Reference :=
  (workspace.referenceOver uri offset).map fun entry => ⟨entry.uri, entry.range⟩

/-- A reference with exactly one target resolves to it. -/
def resolve (workspace : Workspace) (reference : Reference) :
    Except EngineError (Option SymbolId) := do
  workspace.requireIndex "resolve"
  match (workspace.entryOf reference).map (·.targets) with
  | some [target] => return some target
  | _ => return none

def multiResolve (workspace : Workspace) (reference : Reference) :
    Except EngineError (List SymbolId) := do
  workspace.requireIndex "multi_resolve"
  return ((workspace.entryOf reference).map (·.targets)).getD []

/-- The range of the first declaration name over an offset, else that of the first reference. -/
def identifierAt (workspace : Workspace) (uri : Uri) (offset : Nat) :
    Except EngineError (Option Span) := do
  let declared ←
    match workspace.declarationAt uri offset with
    | some id => do
      let definition ← workspace.checkSymbol id
      pure definition.nameRange
    | none => pure none
  return declared.or ((workspace.referenceOver uri offset).map (·.range))

/-- The identifier over an offset of a known document, else the document itself. -/
def elementAt (workspace : Workspace) (uri : Uri) (offset : Nat) :
    Except EngineError (Option SyntaxNode) :=
  match workspace.document? uri with
  | none => .ok none
  | some _ => do
    match ← workspace.identifierAt uri offset with
    | some range => return some ⟨uri, range, .identifier⟩
    | none => return workspace.fileNode uri

/-- The node that a declaration makes of its name. -/
def declarationKind (workspace : Workspace) (id : SymbolId) : Except EngineError NodeKind := do
  let definition ← workspace.checkSymbol id
  return if definition.kind = .method then .methodDeclaration id else .declaration id

/-- An identifier stands in the declaration that it names, if it names one; every other node stands
in its document. -/
def parent (workspace : Workspace) (node : SyntaxNode) : Except EngineError (Option SyntaxNode) :=
  match node.kind with
  | .file => .ok none
  | .identifier =>
    match workspace.declarationNamed node.uri node.range with
    | some id => do
      let kind ← workspace.declarationKind id
      return some { node with kind := kind }
    | none => .ok (some { node with kind := .other })
  | .methodDeclaration _ | .declaration _ | .other => .ok (workspace.fileNode node.uri)

def superMethods (workspace : Workspace) (method : SymbolId) :
    Except EngineError (List SymbolId) := do
  workspace.requireIndex "search_super_methods"
  let definition ← workspace.checkSymbol method
  return definition.superMethods.filter (· ≠ method)

def usageTargets (workspace : Workspace) (uri : Uri) (offset : Nat) : List UsageTarget :=
  match workspace.declarationAt uri offset with
  | some id => [.element id ((workspace.symbol? id).map (·.name))]
  | none => []

/-- A declaration's name stands for the declaration, a reference for what it resolves to. -/
def targetElement (workspace : Workspace) (uri : Uri) (offset : Nat) :
    Except EngineError (Option TargetElement) :=
  match workspace.declarationAt uri offset with
  | some id => .ok (some (.navigable id))
  | none =>
    match workspace.referenceAt uri offset with
    | some reference => do
      let target ← workspace.resolve reference
      return target.map .navigable
    | none => .ok none

/-- The first highlight region of a document that an offset triggers. -/
def regionAt (workspace : Workspace) (uri : Uri) (offset : Nat) : Option HighlightRegion :=
  workspace.highlighters.find? fun region => region.uri = uri && region.trigger.contains offset

def usageHighlighter (workspace : Workspace) (uri : Uri) (offset : Nat) :
    Option UsageHighlighter :=
  (workspace.regionAt uri offset).map fun region =>
    ⟨region.featureId, .ok ⟨region.reads, region.writes⟩⟩

def topLevelFile (workspace : Workspace) (uri : Uri) : Uri :=
  ((workspace.document? uri).bind (·.host)).getD uri

/-- The references of a document to a symbol, by where they start. -/
def referencesTo (workspace : Workspace) (symbol : SymbolId) (file : Uri) :
    Except EngineError (List Reference) := do
  workspace.requireIndex "find_references"
  let _ ← workspace.checkSymbol symbol
  let found := (workspace.referencesIn file).filter (·.targets.contains symbol)
  let handles := found.map fun entry => (⟨entry.uri, entry.range⟩ : Reference)
  return handles.mergeSort fun a b => a.range.start ≤ b.range.start

def referenceAccess (workspace : Workspace) (reference : Reference) : Access :=
  ((workspace.entryOf reference).map (·.access)).getD .read

def accessDetector (workspace : Workspace) (symbol : SymbolId) : Option AccessDetector :=
  match workspace.symbol? symbol with
  | some definition =>
    if definition.kind.tracksAccess then
      some ⟨workspace.referenceAccess, definition.declarationWrites⟩
    else none
  | none => none

def nameRange (workspace : Workspace) (uri : Uri) (symbol : SymbolId) : Option Span :=
  match workspace.symbol? symbol with
  | some definition => if definition.location.uri = uri then definition.nameRange else none
  | none => none

def symbolLocation (workspace : Workspace) (symbol : SymbolId) : Option SymbolLocation :=
  (workspace.symbol? symbol).map (·.location)

/-- All candidates of a document. -/
def completionsIn (workspace : Workspace) (uri : Uri) : List Candidate :=
  (workspace.completions.filter (·.1 = uri)).map Prod.snd

/-- The candidates that continue the identifier before the cursor. -/
def candidates (workspace : Workspace) (uri : Uri) (offset : Nat) :
    Except EngineError (List Candidate) := do
  workspace.requireIndex "completion"
  match workspace.document? uri with
  | some document =>
    let typed := Text.identifierBefore document.text offset
    return (workspace.completionsIn uri).filter (typed.isPrefixOf ·.rawLabel.toList)
  | none => throw (.unknownDocument uri)

/-- The workspace as an engine. -/
def engine (workspace : Workspace) : Engine where
  documentText uri := (workspace.document? uri).map (·.text)
  referenceAt uri offset := .ok (workspace.referenceAt uri offset)
  resolve := workspace.resolve
  multiResolve := workspace.multiResolve
  elementAt := workspace.elementAt
  parent := workspace.parent
  superMethods := workspace.superMethods
  usageTargets uri offset := .ok (workspace.usageTargets uri offset)
  targetElement := workspace.targetElement
  usageHighlighter := workspace.usageHighlighter
  topLevelFile := workspace.topLevelFile
  references := workspace.referencesTo
  accessDetector := workspace.accessDetector
  nameRange := workspace.nameRange
  symbolLocation := workspace.symbolLocation
  candidates := workspace.candidates

instance : Backend Workspace where
  engine := engine
  recordFeature := recordFeature

end Workspace

end CodeBridge

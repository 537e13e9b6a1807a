import CodeBridge.Candidate
import CodeBridge.Symbol

/-! # Code intelligence

The questions that the server asks about source code, as one record of answers. An answer that
depends on a background index can be that the index is not ready yet. All offsets are in UTF-16 code
units.
-/

namespace CodeBridge

/-- Why a question has no answer. -/
inductive EngineError where
  /-- The index that `operation` depends on is still being built. -/
  | indexNotReady (operation : String)
  | unknownDocument (uri : Uri)
  | snapshot (detail : String)
  | internal (detail : String)
  deriving DecidableEq, Repr

def EngineError.message : EngineError → String
  | .indexNotReady operation => "Index is not ready: " ++ operation
  | .unknownDocument uri => "Unknown document: " ++ uri.text
  | .snapshot detail => "Failed to load engine snapshot: " ++ detail
  | .internal detail => "Internal engine error: " ++ detail

/-- A reference expression of a document. -/
structure Reference where
  uri : Uri
  range : Span
  deriving DecidableEq, Repr, Inhabited

/-- What a syntactic element is. -/
inductive NodeKind where
  | file
  | methodDeclaration (symbol : SymbolId)
  /-- A declaration of anything but a method. -/
  | declaration (symbol : SymbolId)
  | identifier
  | other
  deriving DecidableEq, Repr, Inhabited

/-- A syntactic element of a document. -/
structure SyntaxNode where
  uri : Uri
  range : Span
  kind : NodeKind
  deriving DecidableEq, Repr, Inhabited

/-- Something whose usages can be asked for. -/
inductive UsageTarget where
  | element (symbol : SymbolId) (presentation : Option String)
  /-- A target with nothing to search for. -/
  | other (presentation : String)
  deriving DecidableEq, Repr, Inhabited

/-- The symbol to search for, if the target has one. -/
def UsageTarget.symbol? : UsageTarget → Option SymbolId
  | .element symbol _ => some symbol
  | .other _ => none

/-- What a navigation command at the cursor would go to. -/
inductive TargetElement where
  | file
  | navigable (symbol : SymbolId)
  /-- An element that cannot be gone to, but may stand for one that can. -/
  | nonNavigable (navigation : Option SymbolId)
  deriving DecidableEq, Repr, Inhabited

/-- Occurrences, divided by what they do to their symbol. -/
structure UsageRanges where
  reads : List Span := []
  writes : List Span := []
  deriving DecidableEq, Repr, Inhabited

/-- A highlighter for one language construct. -/
structure UsageHighlighter where
  /-- Name under which a use of the highlighter is counted. -/
  featureId : Option String
  usages : Except EngineError UsageRanges

/-- Tells reads from writes for one kind of declaration. -/
structure AccessDetector where
  referenceAccess : Reference → Access
  declarationWrites : Bool

/-- The answers of a code intelligence engine. -/
structure Engine where
  documentText : Uri → Option String
  referenceAt : Uri → Nat → Except EngineError (Option Reference)
  /-- The one symbol that a reference means. -/
  resolve : Reference → Except EngineError (Option SymbolId)
  /-- All symbols that a reference may mean. -/
  multiResolve : Reference → Except EngineError (List SymbolId)
  elementAt : Uri → Nat → Except EngineError (Option SyntaxNode)
  parent : SyntaxNode → Except EngineError (Option SyntaxNode)
  /-- The methods that a method overrides, nearest first, itself left out. -/
  superMethods : SymbolId → Except EngineError (List SymbolId)
  usageTargets : Uri → Nat → Except EngineError (List UsageTarget)
  targetElement : Uri → Nat → Except EngineError (Option TargetElement)
  usageHighlighter : Uri → Nat → Option UsageHighlighter := fun _ _ => none
  /-- The document that a document is injected into; any other document itself. -/
  topLevelFile : Uri → Uri := fun uri => uri
  /-- The references to a symbol in one document. -/
  references : SymbolId → Uri → Except EngineError (List Reference)
  accessDetector : SymbolId → Option AccessDetector
  /-- Where the name of a symbol stands in a document. -/
  nameRange : Uri → SymbolId → Option Span
  symbolLocation : SymbolId → Option SymbolLocation
  candidates : Uri → Nat → Except EngineError (List Candidate)

/-- Something that answers as an engine and counts the features that were used. -/
class Backend (σ : Type u) where
  engine : σ → Engine
  recordFeature : σ → String → σ

/-- A fixed engine keeps no count. -/
instance : Backend Engine where
  engine := fun engine => engine
  recordFeature := fun engine _ => engine

end CodeBridge

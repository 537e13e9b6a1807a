import CodeBridge.Engine.Basic

/-! # Scripted engines

An engine that gives the answers of a script, whatever document, offset or node it is asked about.
Any answer can be a failure, so a script can bring about every outcome of a request.
-/

namespace CodeBridge

/-- Which uses of a symbol write it. -/
structure AccessScript where
  /-- Offsets at which writing references start. -/
  writes : List Nat := []
  declarationWrites : Bool := false
  deriving DecidableEq, Repr

def AccessScript.detector (script : AccessScript) : AccessDetector where
  referenceAccess reference :=
    if script.writes.contains reference.range.start then .write else .read
  declarationWrites := script.declarationWrites

/-- The answers of a scripted engine. -/
structure Script where
  texts : List (Uri × String) := []
  reference : Except EngineError (Option Reference) := .ok none
  resolve : Except EngineError (Option SymbolId) := .ok none
  multiResolve : Except EngineError (List SymbolId) := .ok []
  element : Except EngineError (Option SyntaxNode) := .ok none
  parent : Except EngineError (Option SyntaxNode) := .ok none
  superMethods : Except EngineError (List SymbolId) := .ok []
  usageTargets : Except EngineError (List UsageTarget) := .ok []
  targetElement : Except EngineError (Option TargetElement) := .ok none
  highlighter : Option UsageHighlighter := none
  hosts : List (Uri × Uri) := []
  references : List (SymbolId × Except EngineError (List Reference)) := []
  access : List (SymbolId × AccessScript) := []
  names : List (SymbolId × Span) := []
  locations : List (SymbolId × SymbolLocation) := []
  candidates : Except EngineError (List Candidate) := .ok []

namespace Script

/-- The engine of a script that has neither highlighters nor injected documents. -/
def bareEngine (script : Script) : Engine where
  documentText uri := script.texts.lookup uri
  referenceAt _ _ := script.reference
  resolve _ := script.resolve
  multiResolve _ := script.multiResolve
  elementAt _ _ := script.element
  parent _ := script.parent
  superMethods _ := script.superMethods
  usageTargets _ _ := script.usageTargets
  targetElement _ _ := script.targetElement
  references symbol _ := (script.references.lookup symbol).getD (.ok [])
  accessDetector symbol := (script.access.lookup symbol).map AccessScript.detector
  nameRange _ symbol := script.names.lookup symbol
  symbolLocation symbol := script.locations.lookup symbol
  candidates _ _ := script.candidates

/-- The engine of a script. -/
def engine (script : Script) : Engine :=
  { script.bareEngine with
    usageHighlighter := fun _ _ => script.highlighter
    topLevelFile := fun uri => (script.hosts.lookup uri).getD uri }

end Script

end CodeBridge

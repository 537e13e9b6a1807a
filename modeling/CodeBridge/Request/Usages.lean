import CodeBridge.Request.Error

/-! # Finding usages

The occurrences to highlight for a cursor come from the engine's own highlighter where one applies.
Else the symbols that the cursor is about are found by the first of three strategies that finds any,
and the references to each of them are collected in the document at hand, or in the document that it
is injected into.
-/

namespace CodeBridge

/-- What a highlighted occurrence does. -/
inductive HighlightKind where
  | text
  | read
  | write
  deriving DecidableEq, Repr, Inhabited

/-- The occurrences of one symbol in one document. -/
structure UsageSet where
  file : Uri
  reads : List Span := []
  writes : List Span := []
  /-- Occurrences of a symbol that is neither read nor written. -/
  text : List Span := []
  /-- The name in the declaration. -/
  declaration : Option (Span × HighlightKind) := none
  deriving DecidableEq, Repr

/-- An answer together with the features that were used on the way to it, oldest first. -/
structure Traced (α : Type u) where
  features : List String
  answer : α
  deriving Repr

namespace Usages

/-- A way to find what the cursor is about. -/
abbrev TargetStrategy := Engine → Uri → Nat → Except EngineError (List UsageTarget)

/-- A symbol as a target without a presentation. -/
def element (symbol : SymbolId) : UsageTarget :=
  .element symbol none

/-- The targets that the engine names itself. -/
def engineTargets : TargetStrategy := fun engine uri offset =>
  engine.usageTargets uri offset

/-- The symbol that a navigation command would go to, or that stands for it. -/
def navigationTargets : TargetStrategy := fun engine uri offset => do
  match ← engine.targetElement uri offset with
  | some (.navigable symbol) => return [element symbol]
  | some (.nonNavigable (some symbol)) => return [element symbol]
  | some (.nonNavigable none) | some .file | none => return []

/-- All symbols that the reference at the cursor may mean. -/
def polyReferenceTargets : TargetStrategy := fun engine uri offset => do
  match ← engine.referenceAt uri offset with
  | some reference => return (← engine.multiResolve reference).map element
  | none => return []

/-- The strategies in the order in which they are tried. -/
def targetStrategies : List (String × TargetStrategy) :=
  [("engine", engineTargets), ("navigation", navigationTargets),
    ("poly_reference", polyReferenceTargets)]

/-- The first answer of a list of strategies that is not empty. -/
def firstTargets (engine : Engine) (uri : Uri) (offset : Nat) :
    List (String × TargetStrategy) → Except EngineError (List UsageTarget)
  | [] => .ok []
  | (_, strategy) :: rest => do
    let targets ← strategy engine uri offset
    if targets.isEmpty then firstTargets engine uri offset rest else return targets

/-- What the cursor is about. -/
def targets (engine : Engine) (uri : Uri) (offset : Nat) : Except EngineError (List UsageTarget) :=
  firstTargets engine uri offset targetStrategies

/-- References by what they do: reads and writes if a detector can tell, plain text if not. -/
def classify (file : Uri) (references : List Reference) : Option AccessDetector → UsageSet
  | some detector =>
    let ranges (access : Access) : List Span :=
      (references.filter fun reference => detector.referenceAccess reference = access).map (·.range)
    { file := file, reads := ranges .read, writes := ranges .write }
  | none => { file := file, text := references.map (·.range) }

/-- A declaration's name counts as a write if the declaration gives its symbol a value. -/
def declarationKind : Option AccessDetector → HighlightKind
  | some detector => if detector.declarationWrites then .write else .text
  | none => .text

/-- The references to a symbol in a document, and its name if it is declared there. -/
def ofSymbol (engine : Engine) (file : Uri) (symbol : SymbolId) : Except EngineError UsageSet := do
  let references ← engine.references symbol file
  let detector := engine.accessDetector symbol
  return { classify file references detector with
    declaration := (engine.nameRange file symbol).map (·, declarationKind detector) }

/-- The occurrences that a highlighter computes, after its use has been counted. -/
def ofHighlighter (uri : Uri) (highlighter : UsageHighlighter) :
    Traced (Except EngineError (List UsageSet)) where
  features := highlighter.featureId.toList
  answer := highlighter.usages.map fun ranges =>
    [{ file := uri, reads := ranges.reads, writes := ranges.writes }]

/-- The usages of each symbol that the cursor is about. -/
def ofTargets (engine : Engine) (uri : Uri) (offset : Nat) :
    Except EngineError (List UsageSet) := do
  let targets ← targets engine uri offset
  (targets.filterMap UsageTarget.symbol?).mapM (ofSymbol engine (engine.topLevelFile uri))

/-- The usages at an offset of a document. -/
def find (engine : Engine) (uri : Uri) (offset : Nat) :
    Traced (Except EngineError (List UsageSet)) :=
  match engine.usageHighlighter uri offset with
  | some highlighter => ofHighlighter uri highlighter
  | none => ⟨[], ofTargets engine uri offset⟩

end Usages

end CodeBridge

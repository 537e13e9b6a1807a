import CodeBridge.Request.Error

/-! # Going to a definition

The declaration that the cursor is about is found by the first of two strategies that finds one: the
reference under the cursor is resolved; else, on the name of a method, its nearest super method is
meant. It is shown as the point where it stands.
-/

namespace CodeBridge.Definition

/-- A way to find the declaration at an offset of a document. -/
abbrev Strategy := Engine → Uri → Nat → Except EngineError (Option SymbolId)

/-- What the reference at the cursor resolves to. -/
def ofReference : Strategy := fun engine uri offset => do
  match ← engine.referenceAt uri offset with
  | some reference => engine.resolve reference
  | none => return none

/-- The nearest super method of the method whose name the cursor is on. -/
def ofSuperMethod : Strategy := fun engine uri offset => do
  match ← engine.elementAt uri offset with
  | none => return none
  | some element =>
    match ← engine.parent element with
    | some ⟨_, _, .methodDeclaration method⟩ => return (← engine.superMethods method).head?
    | _ => return none

/-- The strategies in the order in which they are tried. -/
def strategies : List (String × Strategy) :=
  [("reference", ofReference), ("super_method", ofSuperMethod)]

/-- The first declaration that a strategy of a list finds. -/
def firstOf (engine : Engine) (uri : Uri) (offset : Nat) :
    List (String × Strategy) → Except EngineError (Option SymbolId)
  | [] => .ok none
  | (_, strategy) :: rest => do
    match ← strategy engine uri offset with
    | some symbol => return some symbol
    | none => firstOf engine uri offset rest

/-- The declaration at an offset of a document. -/
def resolve (engine : Engine) (uri : Uri) (offset : Nat) : Except RequestError SymbolId := do
  match ← liftEngine (firstOf engine uri offset strategies) with
  | some symbol => return symbol
  | none => throw .noDefinition

end Definition

/-- A place to go to. -/
structure Location where
  uri : Uri
  range : PositionRange
  deriving DecidableEq, Repr

/-- The point where a symbol is declared. -/
def locate (engine : Engine) (symbol : SymbolId) : Except RequestError Location :=
  match engine.symbolLocation symbol with
  | none => .error .noDefinition
  | some location => do
    let index ← openDocument engine location.uri
    let point := index.positionOrOrigin location.textOffset
    return ⟨location.uri, ⟨point, point⟩⟩

/-- The definition of what stands at a position of a document. -/
def gotoDefinition (engine : Engine) (uri : Uri) (position : Position) :
    Except RequestError (List Location) := do
  let offset ← offsetIn engine uri position
  let symbol ← Definition.resolve engine uri offset
  return [← locate engine symbol]

end CodeBridge

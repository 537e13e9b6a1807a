import CodeBridge.Engine.Basic
import CodeBridge.Text.LineIndex

/-! # Why a request fails

Failures of a single request and how they are reported: a missing document or definition is an
expected outcome, an index that is not ready is a passing one, and anything else reaches the client
as an error.
-/

namespace CodeBridge

/-- Why a request has no answer. -/
inductive RequestError where
  | documentNotFound (uri : Uri)
  | noDefinition
  | outOfRange (fault : OutOfRange)
  | indexNotReady (operation : String)
  | engine (error : EngineError)
  deriving DecidableEq, Repr

namespace RequestError

/-- The engine's reason in the terms of a request. -/
def ofEngine : EngineError → RequestError
  | .indexNotReady operation => .indexNotReady operation
  | .unknownDocument uri => .documentNotFound uri
  | .snapshot detail => .engine (.snapshot detail)
  | .internal detail => .engine (.internal detail)

def message : RequestError → String
  | .documentNotFound uri => "No document found: " ++ uri.text
  | .noDefinition => "No definition found"
  | .outOfRange fault => fault.message
  | .indexNotReady operation => "Index is not ready: " ++ operation
  | .engine error => error.message

/-- Whether the outcome is expected and answered with an empty result. -/
def isNotFound : RequestError → Bool
  | .documentNotFound _ | .noDefinition => true
  | .outOfRange _ | .indexNotReady _ | .engine _ => false

end RequestError

/-- An error of the remote procedure call protocol. -/
structure RpcError where
  code : Int
  message : String
  deriving DecidableEq, Repr

namespace RpcError

def invalidParams (message : String) : RpcError := ⟨-32602, message⟩
def internal (message : String) : RpcError := ⟨-32603, message⟩
def methodNotFound : RpcError := ⟨-32601, "Method not found"⟩
def invalidRequest : RpcError := ⟨-32600, "Invalid request"⟩
def notInitialized : RpcError := ⟨-32002, "Server not initialized"⟩

end RpcError

/-- The protocol error for a failure that must reach the client. -/
def RequestError.toRpc (error : RequestError) : RpcError :=
  match error with
  | .outOfRange fault => .invalidParams fault.message
  | error => .internal error.message

/-- An engine's answer as the answer of a request. -/
def liftEngine (answer : Except EngineError α) : Except RequestError α :=
  answer.mapError .ofEngine

/-- The line index of a document that the engine should know. -/
def openDocument (engine : Engine) (uri : Uri) : Except RequestError LineIndex :=
  match engine.documentText uri with
  | some text => .ok (.ofText text)
  | none => .error (.documentNotFound uri)

/-- The offset of a position in a document that the engine should know. -/
def offsetIn (engine : Engine) (uri : Uri) (position : Position) : Except RequestError Nat := do
  let index ← openDocument engine uri
  (index.offset position).mapError .outOfRange

end CodeBridge

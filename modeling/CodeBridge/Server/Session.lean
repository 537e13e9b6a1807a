import CodeBridge.Engine.Basic
import CodeBridge.Request.Completion
import CodeBridge.Request.Definition
import CodeBridge.Request.Highlight
import CodeBridge.Settings.Loader

/-! # Sessions

A session answers the requests of one client. It adds to the plain requests which features are
switched on, whether the client gets snippets, and what becomes of a failure: what is merely not
there is answered with an empty list, and so is a request while the index is being built, after a
notice to the user.
-/

namespace CodeBridge

/-- A message to the client that answers no request. -/
inductive Notice where
  /-- For the log of the client. -/
  | log (text : String)
  /-- For the user. -/
  | toUser (text : String)
  deriving DecidableEq, Repr

/-- What a server can do. -/
structure Capabilities where
  definition : Bool
  highlight : Bool
  completion : Bool
  deriving DecidableEq, Repr

/-- The answer to a request for a list, with the notices sent before it. A feature that is switched
off answers with nothing. -/
structure Response (α : Type u) where
  notices : List Notice := []
  result : Except RpcError (Option (List α))

/-- Turns the outcome of a request into the answer of the server. -/
def settle (request : String) : Except RequestError (List α) → Response α
  | .ok items => { result := .ok (some items) }
  | .error (.indexNotReady _) =>
    { notices := [.toUser ("Indexing in progress, " ++ request ++ " results may be incomplete")]
      result := .ok (some []) }
  | .error error =>
    if error.isNotFound then { result := .ok (some []) } else { result := .error error.toRpc }

/-- A session over a backend. -/
structure Session (σ : Type u) where
  config : Config
  backend : σ
  /-- Whether the client gets snippets. -/
  snippets : Bool := false

namespace Session

variable {σ : Type u} [Backend σ]

def capabilities (session : Session σ) : Capabilities where
  definition := session.config.definitionEnabled
  highlight := session.config.highlightEnabled
  completion := session.config.completionEnabled

/-- Snippets are used if the client knows them and the settings allow them. -/
def negotiate (session : Session σ) (clientSnippets : Bool) : Session σ :=
  { session with snippets := clientSnippets && session.config.snippetsAllowed }

/-- The notice that a client gets once it is ready. -/
def greeting : Notice := .log "Quill LSP server initialized"

def definition (session : Session σ) (uri : Uri) (position : Position) : Response Location :=
  if session.config.definitionEnabled then
    settle "definition" (gotoDefinition (Backend.engine session.backend) uri position)
  else { result := .ok none }

/-- Highlights; the features that were used on the way are recorded. -/
def highlight (session : Session σ) (uri : Uri) (position : Position) :
    Session σ × Response Highlight :=
  if session.config.highlightEnabled then
    let found := documentHighlight (Backend.engine session.backend) uri position
    ({ session with backend := found.features.foldl Backend.recordFeature session.backend },
      settle "highlight" found.answer)
  else (session, { result := .ok none })

def completion (session : Session σ) (uri : Uri) (position : Position) :
    Response CompletionItem :=
  if session.config.completionEnabled then
    settle "completion"
      (CodeBridge.completion (Backend.engine session.backend) uri position session.snippets)
  else { result := .ok none }

end Session

end CodeBridge

import CodeBridge.Engine.Workspace
import CodeBridge.Server.Request
import CodeBridge.Server.Wire
import CodeBridge.Snapshot.Decode

/-! # Conversations

The messages of a client, one after the other. A conversation has phases: requests are only answered
between the greeting and the farewell of the client, and it is over with the message `exit`.
-/

namespace CodeBridge

/-- A message of a client; one without an identifier wants no answer. -/
structure Message where
  id : Option Json
  method : String
  params : Option Json

/-- The message of a JSON value; a value without a method is none. -/
def Message.ofJson? (value : Json) : Option Message := do
  let method ← (← value.member? "method").text?
  return ⟨value.member? "id", method, value.member? "params"⟩

/-- How far a conversation has come. -/
inductive Phase where
  /-- The client has not greeted yet. -/
  | fresh
  | running
  /-- The client has said farewell. -/
  | shutDown
  | over
  deriving DecidableEq, Repr

/-- A conversation with a client. -/
structure Conversation where
  phase : Phase := .fresh
  session : Session Workspace

/-- What a message brings about: notices and, for a request, its answer. -/
structure Reply where
  notices : List Notice := []
  answer : Option (Except RpcError Json) := none

namespace Conversation

/-! ## Parameters -/

/-- Parameters that have to be there and to have a shape, with their members in order. -/
def needParams (shape : Shape) (params : Option Json) : Except RpcError Json :=
  match params with
  | none => .error (.invalidParams "Missing params field")
  | some params =>
    match shape.faultOf? params with
    | some fault => .error (.invalidParams fault)
    | none => .ok params.sorted

def documentOf? (value : Json) : Option Uri := do
  let record ← Json.Record.of? ["uri"] false value
  record.required "uri" Uri.ofJson?

def positionOf? (value : Json) : Option Position := do
  let record ← Json.Record.of? ["line", "character"] false value
  let line ← record.required "line" Json.uint32?
  let character ← record.required "character" Json.uint32?
  return ⟨line, character⟩

/-- The document and the position that a request is about. -/
def placeOf? (params : Json) : Option (Uri × Position) := do
  let uri ← documentOf? (← params.member? "textDocument")
  let position ← positionOf? (← params.member? "position")
  return (uri, position)

/-! ## Answers -/

/-- The response to a request for a list, as a reply. -/
def replyWith (encode : α → Json) (response : Response α) : Reply where
  notices := response.notices
  answer := some (response.toJson? encode)

/-- The answer to a request about a place, if the server knows it. -/
def serve (session : Session Workspace) (method : String) (params : Json) :
    Session Workspace × Reply :=
  match method, placeOf? params with
  | "textDocument/definition", some (uri, position) =>
    (session, replyWith Location.toJson (session.definition uri position))
  | "textDocument/documentHighlight", some (uri, position) =>
    let (session, response) := session.highlight uri position
    (session, replyWith Highlight.toJson response)
  | "textDocument/completion", some (uri, position) =>
    (session, replyWith CompletionItem.toJson (session.completion uri position))
  | _, _ => (session, { answer := some (.error .methodNotFound) })

/-- A request of the wrong phase. -/
def refusal : Phase → RpcError
  | .fresh => .notInitialized
  | .running | .shutDown | .over => .invalidRequest

/-- A reply that says no, to a request. -/
def refuse (message : Message) (error : RpcError) : Reply :=
  if message.id.isSome then { answer := some (.error error) } else {}

/-- The greeting of a client. -/
def greet (conversation : Conversation) (message : Message) : Conversation × Reply :=
  if conversation.phase ≠ .fresh then (conversation, refuse message .invalidRequest)
  else if message.id.isNone then (conversation, {})
  else
    match needParams greetingShape message.params with
    | .error error => (conversation, refuse message error)
    | .ok params =>
      let capabilities := (capabilitiesPart.find? params).getD .null
      let session := conversation.session.negotiate (clientKnowsSnippets capabilities)
      ({ phase := .running, session := session },
        { answer := some (.ok session.capabilities.welcome) })

/-- The farewell of a client. -/
def farewell (conversation : Conversation) (message : Message) : Conversation × Reply :=
  if conversation.phase ≠ .running then
    (conversation, refuse message (refusal conversation.phase))
  else
    let reply : Reply :=
      match message.params with
      | none => { answer := some (.ok .null) }
      | some params =>
        { answer := some (.error (.invalidParams ("Unexpected params: " ++ params.sorted.write))) }
    ({ conversation with phase := .shutDown }, if message.id.isSome then reply else {})

/-- What goes back to the client for a message: the notices, then the answer. -/
def outgoing (message : Message) (reply : Reply) : List Json :=
  reply.notices.map Notice.rpcMessage ++
    match message.id, reply.answer with
    | some id, some answer => [rpcResponse id answer]
    | _, _ => []

/-- A request that the protocol knows. -/
def request (conversation : Conversation) (message : Message) (shape : Shape) :
    Conversation × Reply :=
  if conversation.phase ≠ .running then
    (conversation, refuse message (refusal conversation.phase))
  else if message.id.isNone then (conversation, {})
  else
    match needParams shape message.params with
    | .error error => (conversation, refuse message error)
    | .ok params =>
      let (session, reply) := serve conversation.session message.method params
      ({ conversation with session := session }, reply)

/-- A message that is no request. Those who want an answer to it are refused. -/
def notify (conversation : Conversation) (message : Message) : Conversation × Reply :=
  if message.method = "initialized" ∧ conversation.phase = .running ∧ message.id.isNone then
    (conversation, { notices := [Session.greeting] })
  else if notificationMethods.contains message.method then
    (conversation, refuse message (refusal conversation.phase))
  else if message.method = "$/cancelRequest" then (conversation, refuse message .invalidRequest)
  else (conversation, refuse message .methodNotFound)

/-- What one message brings about. -/
def step (conversation : Conversation) (message : Message) : Conversation × Reply :=
  match message.method with
  | "exit" => ({ conversation with phase := .over }, {})
  | "initialize" => conversation.greet message
  | "shutdown" => conversation.farewell message
  | method =>
    match requestShapes.lookup method with
    | some shape => conversation.request message shape
    | none => conversation.notify message

end Conversation

end CodeBridge

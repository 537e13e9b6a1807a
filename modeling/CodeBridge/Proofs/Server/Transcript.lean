import CodeBridge.Proofs.Engine.Lookup
import CodeBridge.Proofs.Server.Run
import CodeBridge.Proofs.Text.LineTable
import Mathlib.Data.List.Induction

/-! # Transcripts of a session

A session has a memory: it knows what its client said about snippets, whether the index is ready,
and which features were used. Little of it matters. What the events of a run leave behind has a
closed form, `Session.stateAfter`: the last word on the index, the last word on snippets, and one
feature for each request for highlights that counts one. Answers depend on the two last words only,
so a transcript can be written down without running the session: each answer is that of the plain
requests, and the count of features never shows in it.
-/

namespace CodeBridge

namespace Workspace

variable {workspace : Workspace} {uri : Uri} {position : Position}

/-- The feature that a request for highlights counts: that of the first region which the position
triggers, in a document that is there. -/
def featureAt (workspace : Workspace) (uri : Uri) (position : Position) : Option String := do
  let document ← workspace.document? uri
  let offset ← ((LineIndex.ofText document.text).offset position).toOption
  let region ← workspace.regionAt uri offset
  region.featureId

theorem featureAt_eq_some_iff {featureId : String} :
    workspace.featureAt uri position = some featureId ↔
      ∃ document, workspace.document? uri = some document ∧
        position.line.toNat ≤ (LineIndex.ofText document.text).lineCount ∧
        ∃ offset, (LineIndex.ofText document.text).offset position = .ok offset ∧
        ∃ region, workspace.highlighters.find? (fun region =>
            region.uri = uri && region.trigger.contains offset) = some region ∧
          region.featureId = some featureId := by
  simp only [featureAt, Option.bind_eq_bind, Option.bind_eq_some_iff, regionAt]
  refine exists_congr fun document => and_congr_right fun _ => ?_
  rw [← LineIndex.offset_isOk_iff]
  cases (LineIndex.ofText document.text).offset position with
  | ok offset => simp [Except.toOption]
  | error fault => simp [Except.toOption]

theorem find_features (workspace : Workspace) (uri : Uri) (offset : Nat) :
    (Usages.find workspace.engine uri offset).features =
      ((workspace.regionAt uri offset).bind (·.featureId)).toList := by
  simp only [Usages.find, engine, usageHighlighter]
  cases workspace.regionAt uri offset with
  | none => rfl
  | some region => rfl

/-- A request counts its feature whether or not it is answered in the end, and no other. -/
theorem documentHighlight_features (workspace : Workspace) (uri : Uri) (position : Position) :
    (documentHighlight workspace.engine uri position).features =
      (workspace.featureAt uri position).toList := by
  unfold documentHighlight featureAt
  cases held : workspace.document? uri with
  | none =>
    simp only [offsetIn, openDocument, engine, held]
    rfl
  | some document =>
    rw [offsetIn_of_document? held]
    cases located : (LineIndex.ofText document.text).offset position with
    | error fault =>
      simp only [Except.mapError, Option.bind_eq_bind, Option.bind_some, located]
      rfl
    | ok offset =>
      simp only [Except.mapError, find_features, Option.bind_eq_bind, Option.bind_some, located]
      rfl

end Workspace

namespace Session

/-! ## Answers -/

/-- What a session says to an event. -/
inductive Answer where
  /-- The index is not answered. -/
  | silence
  | welcome (capabilities : Capabilities)
  | definition (response : Response Location)
  | highlight (response : Response Highlight)
  | completion (response : Response CompletionItem)

/-- The answer of a session to an event. -/
def answer (session : Session Workspace) : Event → Answer
  | .index _ => .silence
  | .greeting clientSnippets => .welcome (session.negotiate clientSnippets).capabilities
  | .definition uri position => .definition (session.definition uri position)
  | .highlight uri position => .highlight (session.highlight uri position).2
  | .completion uri position => .completion (session.completion uri position)

/-- The answers to a run of events, each of them from the session that the events before it leave. -/
def transcript (session : Session Workspace) : List Event → List Answer
  | [] => []
  | event :: rest => session.answer event :: (session.after event).transcript rest

theorem transcript_eq_mapIdx (session : Session Workspace) (events : List Event) :
    session.transcript events =
      events.mapIdx fun place event => (session.run (events.take place)).answer event := by
  induction events generalizing session with
  | nil => rfl
  | cons event rest ih =>
    rw [transcript, ih, List.mapIdx_cons]
    rfl

/-- The response to a request that can be switched off. -/
def respond {α : Type} (enabled : Bool) (request : String)
    (answer : Except RequestError (List α)) : Response α :=
  if enabled then settle request answer else { result := .ok none }

/-- The answer to an event without a session: from the settings, an engine, and whether snippets are
used. -/
def statelessAnswer (config : Config) (engine : Engine) (snippets : Bool) : Event → Answer
  | .index _ => .silence
  | .greeting _ =>
    .welcome ⟨config.definitionEnabled, config.highlightEnabled, config.completionEnabled⟩
  | .definition uri position =>
    .definition (respond config.definitionEnabled "definition" (gotoDefinition engine uri position))
  | .highlight uri position =>
    .highlight (respond config.highlightEnabled "highlight"
      (documentHighlight engine uri position).answer)
  | .completion uri position =>
    .completion (respond config.completionEnabled "completion"
      (CodeBridge.completion engine uri position snippets))

theorem answer_eq_stateless (session : Session Workspace) (event : Event) :
    session.answer event =
      statelessAnswer session.config session.backend.engine session.snippets event := by
  cases event with
  | highlight uri position =>
    simp only [answer, statelessAnswer, respond, highlight]
    split
    · rfl
    · rfl
  | _ => rfl

/-! ## What a run leaves behind -/

/-- What an event says about the index. -/
def Event.ready? : Event → Option Bool
  | .index ready => some ready
  | _ => none

/-- What an event says about the client's snippets. -/
def Event.clientSnippets? : Event → Option Bool
  | .greeting clientSnippets => some clientSnippets
  | _ => none

/-- The feature that an event counts, in a workspace with certain tables. -/
def Event.feature? (config : Config) (workspace : Workspace) : Event → Option String
  | .highlight uri position =>
    if config.highlightEnabled then workspace.featureAt uri position else none
  | _ => none

/-- All that an event can do: it may say something about the index or about snippets, and it may
count a feature. -/
theorem after_eq (session : Session Workspace) (event : Event) :
    session.after event =
      { session with
        backend := { session.backend with
          ready := event.ready?.getD session.backend.ready
          featureUses := session.backend.featureUses ++
            (event.feature? session.config session.backend).toList }
        snippets := (event.clientSnippets?.map (· && session.config.snippetsAllowed)).getD
          session.snippets } := by
  cases event with
  | highlight uri position =>
    simp only [after, highlight, Event.feature?]
    split
    · rw [Workspace.foldl_recordFeature, ← Workspace.documentHighlight_features]
      rfl
    · simp [Event.ready?, Event.clientSnippets?]
  | _ =>
    simp [after, negotiate, Workspace.setReady, Event.ready?, Event.clientSnippets?, Event.feature?]

theorem filterMap_concat {α : Type} (word : Event → Option α) (events : List Event)
    (event : Event) :
    (events ++ [event]).filterMap word = events.filterMap word ++ (word event).toList := by
  simp [List.filterMap_eq_flatMap_toList]

/-- The last word of a run on a question that not all events are about. -/
def lastWord (word : Event → Option Bool) (initial : Bool) (events : List Event) : Bool :=
  (events.filterMap word).getLastD initial

theorem lastWord_concat (word : Event → Option Bool) (initial : Bool) (events : List Event)
    (event : Event) :
    lastWord word initial (events ++ [event]) =
      (word event).getD (lastWord word initial events) := by
  rw [lastWord, filterMap_concat]
  cases word event with
  | none => simp [lastWord]
  | some value => simp

/-- A session that started over a workspace, after a run of events. -/
def stateAfter (config : Config) (workspace : Workspace) (events : List Event) :
    Session Workspace where
  config := config
  backend := { workspace with
    ready := lastWord Event.ready? workspace.ready events
    featureUses := workspace.featureUses ++ events.filterMap (Event.feature? config workspace) }
  snippets := lastWord Event.clientSnippets? false events && config.snippetsAllowed

theorem after_stateAfter (config : Config) (workspace : Workspace) (events : List Event)
    (event : Event) :
    (stateAfter config workspace events).after event =
      stateAfter config workspace (events ++ [event]) := by
  -- Which feature an event counts is a matter of the tables, and those are still the same.
  have feature : event.feature? config (stateAfter config workspace events).backend =
      event.feature? config workspace := by
    cases event with
    | _ => rfl
  have snippets := Option.getD_map (· && config.snippetsAllowed)
    (lastWord Event.clientSnippets? false events) event.clientSnippets?
  rw [after_eq]
  simp only [stateAfter, lastWord_concat, filterMap_concat, List.append_assoc] at feature ⊢
  rw [feature, snippets]

theorem run_eq_stateAfter (config : Config) (workspace : Workspace) (events : List Event) :
    run { config := config, backend := workspace } events = stateAfter config workspace events := by
  induction events using List.reverseRecOn with
  | nil => simp [run, stateAfter, lastWord]
  | append_singleton events event ih =>
    rw [← after_stateAfter, ← ih, run, List.foldl_concat]
    rfl

/-- The feature that an event counts, by what has to be the case for it. -/
theorem feature?_eq_some_iff {config : Config} {workspace : Workspace} {event : Event}
    {featureId : String} :
    event.feature? config workspace = some featureId ↔
      ∃ uri position, event = .highlight uri position ∧ config.highlightEnabled = true ∧
        workspace.featureAt uri position = some featureId := by
  cases event with
  | highlight uri position => simp [Event.feature?]
  | _ => simp [Event.feature?]

/-- However a session over a workspace goes on, each of its answers is the one that the plain
requests give for the settings, the tables that the workspace had at the beginning, and the last
words on the index and on snippets. All that is left in the end is the last word on the index and
the count of features. One feature is counted, in the order of the requests, for each request for
highlights that is switched on and whose position is on a line of a document that is there, where
the first region triggered by it has a feature; nothing else counts any. -/
theorem transcript_eq_stateless_and_features (config : Config) (workspace : Workspace)
    (events : List Event) :
    let session : Session Workspace := { config := config, backend := workspace }
    session.transcript events =
      (events.mapIdx fun place event =>
        let before := events.take place
        statelessAnswer config
          (workspace.setReady (lastWord Event.ready? workspace.ready before)).engine
          (lastWord Event.clientSnippets? false before && config.snippetsAllowed) event) ∧
    (session.run events).backend =
      { workspace with
        ready := lastWord Event.ready? workspace.ready events
        featureUses := workspace.featureUses ++
          events.filterMap (Event.feature? config workspace) } ∧
    ∀ (event : Event) (featureId : String), event.feature? config workspace = some featureId ↔
      ∃ uri position, event = .highlight uri position ∧ config.highlightEnabled = true ∧
        ∃ document, workspace.document? uri = some document ∧
          position.line.toNat ≤ (LineIndex.ofText document.text).lineCount ∧
          ∃ offset, (LineIndex.ofText document.text).offset position = .ok offset ∧
          ∃ region, workspace.highlighters.find? (fun region =>
              region.uri = uri && region.trigger.contains offset) = some region ∧
            region.featureId = some featureId := by
  refine ⟨?_, ?_, ?_⟩
  · rw [transcript_eq_mapIdx]
    congr 1
    funext place event
    rw [run_eq_stateAfter, answer_eq_stateless]
    rfl
  · rw [run_eq_stateAfter, stateAfter]
  · intro event featureId
    simp only [feature?_eq_some_iff, Workspace.featureAt_eq_some_iff]

-- Only the request on `return` counts: an index that is not ready does not keep it from that, while
-- a line beyond the document does.
example :
    let workspace := Workspace.empty.run
      [.document { uri := ⟨"file:///a"⟩, text := "return x" },
        .highlighter { uri := ⟨"file:///a"⟩, trigger := ⟨0, 6⟩, featureId := some "exits" }]
    let session := run { config := { settings := {} }, backend := workspace }
      [.index false, .highlight ⟨"file:///a"⟩ ⟨0, 3⟩, .highlight ⟨"file:///a"⟩ ⟨0, 7⟩,
        .highlight ⟨"file:///a"⟩ ⟨2, 3⟩, .completion ⟨"file:///a"⟩ ⟨0, 3⟩]
    session.backend.featureUses = ["exits"] := by
  decide

end Session

end CodeBridge

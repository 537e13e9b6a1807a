import CodeBridge.Proofs.Engine.Lookup
import CodeBridge.Proofs.Request.Failure
import CodeBridge.Proofs.Server.Run
import CodeBridge.Proofs.Text.LineTable

/-! # What a server answers

For a server over an accepted snapshot three things decide what kind of answer a request gets:
whether its feature is switched on, whether the workspace has the document, and whether the line of
the position lies in it. A feature that is off answers with nothing, a line beyond the document is
an error of the client, and everything else is a list. That holds at any point of a session, whether
or not the index is ready; no request ever ends in an error of the engine.
-/

namespace CodeBridge

/-- The workspace has the document, and the position is on a line past the one after its last. -/
def Workspace.BeyondEnd (workspace : Workspace) (uri : Uri) (position : Position) : Prop :=
  ∃ document, workspace.document? uri = some document ∧
    (LineIndex.ofText document.text).lineCount < position.line.toNat

/-- Which of its three kinds an answer is: nothing, an error for wrong parameters, or a list. -/
structure Response.Accounts {α : Type} (response : Response α) (enabled : Bool)
    (beyondEnd : Prop) : Prop where
  off_iff : response.result = .ok none ↔ enabled = false
  error_iff : (∃ error, response.result = .error error) ↔ enabled = true ∧ beyondEnd
  error_code : ∀ error, response.result = .error error → error.code = -32602
  list_iff : (∃ items, response.result = .ok (some items)) ↔ enabled = true ∧ ¬beyondEnd

/-! ## Requests begin with an offset -/

/-- A request begins with the offset of its position: without one it fails for the same reason, with
one it only fails mildly. -/
structure BeginsAtOffset {α : Type} (engine : Engine) (uri : Uri) (position : Position)
    (answer : Except RequestError α) : Prop where
  fails : ∀ error, offsetIn engine uri position = .error error → answer = .error error
  continues : ∀ offset, offsetIn engine uri position = .ok offset →
    Meets RequestError.IsMild (fun _ => True) answer

section Requests

variable {engine : Engine} {known : SymbolId → Prop} (honours : engine.Honours known)
include honours

theorem gotoDefinition_beginsAtOffset (uri : Uri) (position : Position) :
    BeginsAtOffset engine uri position (gotoDefinition engine uri position) where
  fails error refused := by rw [gotoDefinition, refused, error_bind]
  continues _ atOffset := gotoDefinition_meets honours atOffset

theorem documentHighlight_beginsAtOffset (uri : Uri) (position : Position) :
    BeginsAtOffset engine uri position (documentHighlight engine uri position).answer where
  fails error refused := by rw [documentHighlight, refused]
  continues _ atOffset := documentHighlight_meets honours atOffset

theorem completion_beginsAtOffset (uri : Uri) (position : Position) (snippets : Bool) :
    BeginsAtOffset engine uri position (completion engine uri position snippets) where
  fails error refused := by rw [completion, refused, error_bind]
  continues _ atOffset := completion_meets honours snippets atOffset

end Requests

variable {workspace : Workspace} {uri : Uri} {position : Position} {α : Type}

/-- The offset of a position is out of range exactly beyond the end of a document; any other failure
to find it is mild. -/
theorem Workspace.offsetIn_cases (workspace : Workspace) (uri : Uri) (position : Position) :
    (workspace.BeyondEnd uri position ∧
      ∃ fault, offsetIn workspace.engine uri position = .error (.outOfRange fault)) ∨
    (¬workspace.BeyondEnd uri position ∧
      Meets RequestError.IsMild (fun _ => True) (offsetIn workspace.engine uri position)) := by
  cases held : workspace.document? uri with
  | none =>
    refine .inr ⟨?_, ?_⟩
    · rintro ⟨document, found, -⟩
      cases held.symm.trans found
    · simp only [offsetIn, openDocument, engine, held]
      trivial
  | some document =>
    have inDocument : workspace.BeyondEnd uri position ↔
        (LineIndex.ofText document.text).lineCount < position.line.toNat := by
      simp [BeyondEnd, held]
    have known := LineIndex.offset_isOk_iff (.ofText document.text) position
    rw [offsetIn_of_document? held, inDocument]
    cases success : (LineIndex.ofText document.text).offset position with
    | ok offset =>
      have := known.mp ⟨offset, success⟩
      exact .inr ⟨by omega, trivial⟩
    | error fault =>
      refine .inl ⟨?_, fault, rfl⟩
      by_contra inside
      obtain ⟨offset, contrary⟩ := known.mpr (by omega)
      cases success.symm.trans contrary

/-- A request ends in a fault of its position, or mildly. -/
theorem BeginsAtOffset.cases {answer : Except RequestError α}
    (begins : BeginsAtOffset workspace.engine uri position answer) :
    (workspace.BeyondEnd uri position ∧ ∃ fault, answer = .error (.outOfRange fault)) ∨
    (¬workspace.BeyondEnd uri position ∧ Meets RequestError.IsMild (fun _ => True) answer) := by
  rcases workspace.offsetIn_cases uri position with ⟨beyond, fault, refused⟩ | ⟨inside, mild⟩
  · exact .inl ⟨beyond, fault, begins.fails _ refused⟩
  · refine .inr ⟨inside, ?_⟩
    cases located : offsetIn workspace.engine uri position with
    | ok offset => exact begins.continues offset located
    | error error =>
      rw [located] at mild
      rw [begins.fails error located]
      exact mild

theorem BeginsAtOffset.ne_engine {answer : Except RequestError α}
    (begins : BeginsAtOffset workspace.engine uri position answer) (fault : EngineError) :
    answer ≠ .error (.engine fault) := by
  rintro rfl
  rcases begins.cases with ⟨-, fault, same⟩ | ⟨-, mild⟩
  · cases same
  · exact mild

/-! ## Settled answers -/

theorem settle_of_mild {answer : Except RequestError (List α)} (request : String)
    (meets : Meets RequestError.IsMild (fun _ => True) answer) :
    ∃ items, (settle request answer).result = .ok (some items) := by
  cases answer with
  | ok items => exact ⟨items, rfl⟩
  | error error =>
    refine ⟨[], ?_⟩
    cases error with
    | documentNotFound uri => rfl
    | noDefinition => rfl
    | indexNotReady operation => rfl
    | outOfRange fault => exact meets.elim
    | engine fault => exact meets.elim

/-- The answer of a feature that can be switched off, to a request that begins with an offset. -/
theorem BeginsAtOffset.accounts {answer : Except RequestError (List α)}
    (begins : BeginsAtOffset workspace.engine uri position answer) (request : String)
    (enabled : Bool) :
    (if enabled then settle request answer else { result := .ok none } : Response α).Accounts
      enabled (workspace.BeyondEnd uri position) := by
  cases enabled with
  | false => constructor <;> simp
  | true =>
    rcases begins.cases with ⟨beyond, fault, rfl⟩ | ⟨inside, mild⟩
    · have result : (settle request (.error (.outOfRange fault) : Except _ (List α))).result =
          .error (.invalidParams fault.message) := rfl
      constructor <;> simp [result, beyond, RpcError.invalidParams]
    · obtain ⟨items, result⟩ := settle_of_mild request mild
      constructor <;> simp [result, inside]

/-! ## Sessions -/

theorem Workspace.SameTables.linked {other : Workspace} (same : workspace.SameTables other)
    (linked : workspace.Linked) : other.Linked := by
  obtain ⟨ready, features, rfl⟩ := same
  exact ⟨linked.superMethods, linked.targets⟩

theorem Workspace.SameTables.beyondEnd {other : Workspace} (same : workspace.SameTables other) :
    other.BeyondEnd uri position ↔ workspace.BeyondEnd uri position := by
  obtain ⟨ready, features, rfl⟩ := same
  rfl

/-- At any point of a session over an accepted snapshot, an answer is nothing exactly if the feature
is switched off, an error exactly if the position lies beyond the end of a document that is there,
and a list in all other cases. The error is always one of wrong parameters. -/
theorem session_accounts_for_requests {snapshot : Snapshot} {workspace : Workspace}
    (accepted : snapshot.toWorkspace = .ok workspace) (config : Config)
    (events : List Session.Event) (uri : Uri) (position : Position) :
    let session := Session.run { config := config, backend := workspace } events
    session.capabilities =
      ⟨config.definitionEnabled, config.highlightEnabled, config.completionEnabled⟩ ∧
    (session.definition uri position).Accounts config.definitionEnabled
      (workspace.BeyondEnd uri position) ∧
    (session.highlight uri position).2.Accounts config.highlightEnabled
      (workspace.BeyondEnd uri position) ∧
    (session.completion uri position).Accounts config.completionEnabled
      (workspace.BeyondEnd uri position) ∧
    ∀ fault, gotoDefinition session.backend.engine uri position ≠ .error (.engine fault) ∧
      (documentHighlight session.backend.engine uri position).answer ≠ .error (.engine fault) ∧
      completion session.backend.engine uri position session.snippets ≠ .error (.engine fault) := by
  intro session
  have same : workspace.SameTables session.backend :=
    Session.run_backend { config := config, backend := workspace } events
  have settings : session.config = config :=
    Session.run_config { config := config, backend := workspace } events
  have honours := (same.linked (Snapshot.toWorkspace_linked accepted)).engine_honours
  have definition := gotoDefinition_beginsAtOffset honours uri position
  have highlight := documentHighlight_beginsAtOffset honours uri position
  have completion := completion_beginsAtOffset honours uri position session.snippets
  rw [← settings, ← same.beyondEnd]
  refine ⟨rfl, definition.accounts _ _, ?_, completion.accounts _ _, fun fault =>
    ⟨definition.ne_engine fault, highlight.ne_engine fault, completion.ne_engine fault⟩⟩
  have answer : (session.highlight uri position).2 =
      if session.config.highlightEnabled then
        settle "highlight" (documentHighlight session.backend.engine uri position).answer
      else { result := .ok none } := by
    unfold Session.highlight
    split
    · rfl
    · rfl
  rw [answer]
  exact highlight.accounts _ _

/-- A document whose only reference leads to a declaration in a document that is not there. -/
def Snapshot.strayReference : Snapshot where
  documents := [{ uri := ⟨"file:///a"⟩, text := "run()" }]
  symbols := [{ name := "run", kind := .method, location := ⟨⟨"file:///b"⟩, some 0⟩ }]
  references := [{ uri := ⟨"file:///a"⟩, range := ⟨0, 3⟩, targets := [.ofIndex 0] }]

theorem session_accounts_for_requests_stray :
    let workspace := Workspace.empty.run Snapshot.strayReference.changes
    let session := Session.run
      { config := { settings := { completion := some { enabled := some false } } }
        backend := workspace }
      [.index false, .highlight ⟨"file:///a"⟩ ⟨0, 1⟩, .index true]
    Snapshot.strayReference.toWorkspace = .ok workspace ∧
      (∃ items, (session.definition ⟨"file:///a"⟩ ⟨0, 1⟩).result = .ok (some items)) ∧
      (∃ error, (session.highlight ⟨"file:///a"⟩ ⟨2, 0⟩).2.result = .error error ∧
        error.code = -32602) ∧
      (session.completion ⟨"file:///a"⟩ ⟨2, 0⟩).result = .ok none := by
  intro workspace session
  have accepted : Snapshot.strayReference.toWorkspace = .ok workspace := rfl
  have accounts := session_accounts_for_requests accepted session.config
    [.index false, .highlight ⟨"file:///a"⟩ ⟨0, 1⟩, .index true] ⟨"file:///a"⟩
  have within : ¬workspace.BeyondEnd ⟨"file:///a"⟩ ⟨0, 1⟩ := by
    rintro ⟨document, found, beyond⟩
    cases found
    revert beyond
    decide
  have beyond : workspace.BeyondEnd ⟨"file:///a"⟩ ⟨2, 0⟩ :=
    ⟨{ uri := ⟨"file:///a"⟩, text := "run()" }, by decide, by decide⟩
  obtain ⟨-, definition, -, -, -⟩ := accounts ⟨0, 1⟩
  obtain ⟨-, -, highlight, completion, -⟩ := accounts ⟨2, 0⟩
  obtain ⟨error, failed⟩ := highlight.error_iff.mpr ⟨rfl, beyond⟩
  exact ⟨accepted, definition.list_iff.mpr ⟨rfl, within⟩,
    ⟨error, failed, highlight.error_code error failed⟩, completion.off_iff.mpr rfl⟩

end CodeBridge

import CodeBridge.Proofs.Engine.Tables
import CodeBridge.Server.Session

/-! # Runs of a session

What happens to a session over a workspace, one event after the other: the background index comes
and goes, a client greets, and requests are answered. None of it touches the configuration or a
table of the workspace. Requests for highlights count features, the index changes its readiness, and
greetings decide about snippets; that is all that an event can leave behind.
-/

namespace CodeBridge

namespace Workspace

/-- Counting features one by one appends them all, in their order. -/
theorem foldl_recordFeature (workspace : Workspace) (features : List String) :
    features.foldl Backend.recordFeature workspace =
      { workspace with featureUses := workspace.featureUses ++ features } := by
  induction features generalizing workspace with
  | nil => simp
  | cons feature rest ih =>
    rw [List.foldl_cons, ih]
    change { workspace with featureUses := workspace.featureUses ++ [feature] ++ rest } = _
    rw [List.append_assoc]
    rfl

end Workspace

namespace Session

/-- What can happen to a session in its process. -/
inductive Event where
  /-- The background index becomes ready, or ceases to be. -/
  | index (ready : Bool)
  /-- A client arrives and says whether it knows snippets. -/
  | greeting (clientSnippets : Bool)
  | definition (uri : Uri) (position : Position)
  | highlight (uri : Uri) (position : Position)
  | completion (uri : Uri) (position : Position)
  deriving DecidableEq, Repr

/-- The session after an event. -/
def after (session : Session Workspace) : Event → Session Workspace
  | .index ready => { session with backend := session.backend.setReady ready }
  | .greeting clientSnippets => session.negotiate clientSnippets
  | .highlight uri position => (session.highlight uri position).1
  | .definition _ _ | .completion _ _ => session

/-- The session after a run of events. -/
def run (session : Session Workspace) (events : List Event) : Session Workspace :=
  events.foldl after session

theorem highlight_backend (session : Session Workspace) (uri : Uri) (position : Position) :
    session.backend.SameTables (session.highlight uri position).1.backend := by
  unfold highlight
  split
  · exact ⟨_, _, Workspace.foldl_recordFeature ..⟩
  · exact .refl _

theorem highlight_config (session : Session Workspace) (uri : Uri) (position : Position) :
    (session.highlight uri position).1.config = session.config := by
  unfold highlight
  split
  · rfl
  · rfl

theorem after_config (session : Session Workspace) (event : Event) :
    (session.after event).config = session.config := by
  cases event with
  | highlight uri position => exact session.highlight_config uri position
  | _ => rfl

theorem after_backend (session : Session Workspace) (event : Event) :
    session.backend.SameTables (session.after event).backend := by
  cases event with
  | index ready => exact session.backend.sameTables_setReady ready
  | highlight uri position => exact session.highlight_backend uri position
  | _ => exact .refl _

theorem run_config (session : Session Workspace) (events : List Event) :
    (session.run events).config = session.config := by
  induction events generalizing session with
  | nil => rfl
  | cons event rest ih => exact (ih (session.after event)).trans (session.after_config event)

theorem run_backend (session : Session Workspace) (events : List Event) :
    session.backend.SameTables (session.run events).backend := by
  induction events generalizing session with
  | nil => exact .refl _
  | cons event rest ih => exact (session.after_backend event).trans (ih (session.after event))

end Session

end CodeBridge

import CodeBridge.Engine.Workspace
import CodeBridge.Proofs.Answer
import CodeBridge.Request.Completion
import CodeBridge.Request.Definition
import CodeBridge.Request.Highlight

/-! # Requests while the index is being built

Some questions need the background index and are refused without it, others are answered from the
tables alone. Requests mix both, and try one strategy after another, so it has to be shown that a
refusal is never taken for "nothing found": a request without the index either says so or gives the
answer that it gives with it.

Two engines are compared question by question (`Engine.IsDegraded`). That relation carries over to
every request, whatever the engine; a workspace with its index switched off is an instance of it.
-/

namespace CodeBridge

/-- The failure that ends by itself once the index is there. -/
def EngineError.IsNotReady (error : EngineError) : Prop :=
  ∃ operation, error = .indexNotReady operation

def RequestError.IsNotReady (error : RequestError) : Prop :=
  ∃ operation, error = .indexNotReady operation

theorem RequestError.isNotReady_ofEngine {error : EngineError} (notReady : error.IsNotReady) :
    (RequestError.ofEngine error).IsNotReady := by
  obtain ⟨operation, rfl⟩ := notReady
  exact ⟨operation, rfl⟩

/-- An engine that gives the answers of a full one, except that it may refuse some of them because
its index is not ready. What cannot be refused is the same. -/
structure Engine.IsDegraded (degraded full : Engine) : Prop where
  documentText : degraded.documentText = full.documentText
  referenceAt : ∀ uri offset,
    Degrades EngineError.IsNotReady (degraded.referenceAt uri offset) (full.referenceAt uri offset)
  resolve : ∀ reference,
    Degrades EngineError.IsNotReady (degraded.resolve reference) (full.resolve reference)
  multiResolve : ∀ reference,
    Degrades EngineError.IsNotReady (degraded.multiResolve reference) (full.multiResolve reference)
  elementAt : ∀ uri offset,
    Degrades EngineError.IsNotReady (degraded.elementAt uri offset) (full.elementAt uri offset)
  parent : ∀ node, Degrades EngineError.IsNotReady (degraded.parent node) (full.parent node)
  superMethods : ∀ method,
    Degrades EngineError.IsNotReady (degraded.superMethods method) (full.superMethods method)
  usageTargets : ∀ uri offset,
    Degrades EngineError.IsNotReady (degraded.usageTargets uri offset)
      (full.usageTargets uri offset)
  targetElement : ∀ uri offset,
    Degrades EngineError.IsNotReady (degraded.targetElement uri offset)
      (full.targetElement uri offset)
  usageHighlighter : degraded.usageHighlighter = full.usageHighlighter
  topLevelFile : degraded.topLevelFile = full.topLevelFile
  references : ∀ symbol file,
    Degrades EngineError.IsNotReady (degraded.references symbol file) (full.references symbol file)
  accessDetector : degraded.accessDetector = full.accessDetector
  nameRange : degraded.nameRange = full.nameRange
  symbolLocation : degraded.symbolLocation = full.symbolLocation
  candidates : ∀ uri offset,
    Degrades EngineError.IsNotReady (degraded.candidates uri offset) (full.candidates uri offset)

/-! ## The workspace without its index -/

/-- Without the index, a question that needs it is refused before anything is looked up. -/
theorem Workspace.requireIndex_degrades (workspace : Workspace) (operation : String)
    {α : Type} (answer answer' : Unit → Except EngineError α) :
    Degrades EngineError.IsNotReady ((workspace.setReady false).requireIndex operation >>= answer)
      ((workspace.setReady true).requireIndex operation >>= answer') :=
  .inl ⟨_, ⟨operation, rfl⟩, rfl⟩

theorem Workspace.targetElement_degrades (workspace : Workspace) (uri : Uri) (offset : Nat) :
    Degrades EngineError.IsNotReady ((workspace.setReady false).targetElement uri offset)
      ((workspace.setReady true).targetElement uri offset) := by
  have declarations : (workspace.setReady false).declarationAt uri offset =
      (workspace.setReady true).declarationAt uri offset := rfl
  have references : (workspace.setReady false).referenceAt uri offset =
      (workspace.setReady true).referenceAt uri offset := rfl
  unfold Workspace.targetElement
  rw [declarations, references]
  cases (workspace.setReady true).declarationAt uri offset with
  | some id => exact .refl _ _
  | none =>
    cases (workspace.setReady true).referenceAt uri offset with
    | some reference =>
      exact .bind (workspace.requireIndex_degrades ..) fun target => .refl _ _
    | none => exact .refl _ _

theorem Workspace.setReady_isDegraded (workspace : Workspace) :
    (workspace.setReady false).engine.IsDegraded (workspace.setReady true).engine where
  documentText := rfl
  referenceAt _ _ := .refl _ _
  resolve _ := workspace.requireIndex_degrades ..
  multiResolve _ := workspace.requireIndex_degrades ..
  elementAt _ _ := .refl _ _
  parent _ := .refl _ _
  superMethods _ := workspace.requireIndex_degrades ..
  usageTargets _ _ := .refl _ _
  targetElement := workspace.targetElement_degrades
  usageHighlighter := rfl
  topLevelFile := rfl
  references _ _ := workspace.requireIndex_degrades ..
  accessDetector := rfl
  nameRange := rfl
  symbolLocation := rfl
  candidates _ _ := workspace.requireIndex_degrades ..

/-! ## Requests -/

variable {degraded full : Engine} (lacks : degraded.IsDegraded full)
include lacks

theorem Engine.IsDegraded.openDocument (uri : Uri) :
    CodeBridge.openDocument degraded uri = CodeBridge.openDocument full uri := by
  rw [CodeBridge.openDocument, CodeBridge.openDocument, lacks.documentText]

theorem Engine.IsDegraded.offsetIn (uri : Uri) (position : Position) :
    CodeBridge.offsetIn degraded uri position = CodeBridge.offsetIn full uri position := by
  rw [CodeBridge.offsetIn, CodeBridge.offsetIn, lacks.openDocument]

omit lacks in
theorem liftEngine_degrades {α : Type} {answer answer' : Except EngineError α}
    (degrades : Degrades EngineError.IsNotReady answer answer') :
    Degrades RequestError.IsNotReady (liftEngine answer) (liftEngine answer') :=
  degrades.mapError fun _ => RequestError.isNotReady_ofEngine

/-! ### Definitions -/

theorem ofReference_degrades (uri : Uri) (offset : Nat) :
    Degrades EngineError.IsNotReady (Definition.ofReference degraded uri offset)
      (Definition.ofReference full uri offset) := by
  refine .bind (lacks.referenceAt uri offset) fun reference => ?_
  cases reference with
  | some reference => exact lacks.resolve reference
  | none => exact .refl _ _

theorem ofSuperMethod_degrades (uri : Uri) (offset : Nat) :
    Degrades EngineError.IsNotReady (Definition.ofSuperMethod degraded uri offset)
      (Definition.ofSuperMethod full uri offset) := by
  refine .bind (lacks.elementAt uri offset) fun element => ?_
  cases element with
  | none => exact .refl _ _
  | some element =>
    refine .bind (lacks.parent element) fun parent => ?_
    split
    · exact .bind (lacks.superMethods _) fun supers => .refl _ _
    · exact .refl _ _

omit lacks in
/-- If each strategy of a list degrades, so does trying one after the other: a strategy that is
refused ends the search, and one that finds nothing has found nothing. -/
theorem firstOf_degrades (uri : Uri) (offset : Nat)
    (strategies : List (String × Definition.Strategy))
    (each : ∀ strategy ∈ strategies, Degrades EngineError.IsNotReady
      (strategy.2 degraded uri offset) (strategy.2 full uri offset)) :
    Degrades EngineError.IsNotReady (Definition.firstOf degraded uri offset strategies)
      (Definition.firstOf full uri offset strategies) := by
  induction strategies with
  | nil => exact .refl _ _
  | cons strategy rest ih =>
    refine .bind (each strategy List.mem_cons_self) fun found => ?_
    cases found with
    | some symbol => exact .refl _ _
    | none => exact ih fun other member => each other (List.mem_cons_of_mem _ member)

theorem resolve_degrades (uri : Uri) (offset : Nat) :
    Degrades RequestError.IsNotReady (Definition.resolve degraded uri offset)
      (Definition.resolve full uri offset) := by
  refine .bind (liftEngine_degrades (firstOf_degrades uri offset _ ?_)) fun symbol => .refl _ _
  intro strategy member
  simp only [Definition.strategies, List.mem_cons, List.not_mem_nil, or_false] at member
  rcases member with rfl | rfl
  · exact ofReference_degrades lacks uri offset
  · exact ofSuperMethod_degrades lacks uri offset

theorem locate_eq (symbol : SymbolId) : locate degraded symbol = locate full symbol := by
  simp only [locate, lacks.symbolLocation, lacks.openDocument]

theorem gotoDefinition_degrades (uri : Uri) (position : Position) :
    Degrades RequestError.IsNotReady (gotoDefinition degraded uri position)
      (gotoDefinition full uri position) := by
  unfold gotoDefinition
  rw [lacks.offsetIn]
  refine .bind (.refl _ _) fun offset => ?_
  refine .bind (resolve_degrades lacks uri offset) fun symbol => ?_
  rw [locate_eq lacks]
  exact .refl _ _

/-! ### Highlights -/

theorem navigationTargets_degrades (uri : Uri) (offset : Nat) :
    Degrades EngineError.IsNotReady (Usages.navigationTargets degraded uri offset)
      (Usages.navigationTargets full uri offset) :=
  .bind (lacks.targetElement uri offset) fun _ => .refl _ _

theorem polyReferenceTargets_degrades (uri : Uri) (offset : Nat) :
    Degrades EngineError.IsNotReady (Usages.polyReferenceTargets degraded uri offset)
      (Usages.polyReferenceTargets full uri offset) := by
  refine .bind (lacks.referenceAt uri offset) fun reference => ?_
  cases reference with
  | some reference => exact .bind (lacks.multiResolve reference) fun _ => .refl _ _
  | none => exact .refl _ _

omit lacks in
theorem firstTargets_degrades (uri : Uri) (offset : Nat)
    (strategies : List (String × Usages.TargetStrategy))
    (each : ∀ strategy ∈ strategies, Degrades EngineError.IsNotReady
      (strategy.2 degraded uri offset) (strategy.2 full uri offset)) :
    Degrades EngineError.IsNotReady (Usages.firstTargets degraded uri offset strategies)
      (Usages.firstTargets full uri offset strategies) := by
  induction strategies with
  | nil => exact .refl _ _
  | cons strategy rest ih =>
    refine .bind (each strategy List.mem_cons_self) fun targets => ?_
    have later := ih fun other member => each other (List.mem_cons_of_mem _ member)
    cases targets.isEmpty with
    | true => exact later
    | false => exact .refl _ _

theorem targets_degrades (uri : Uri) (offset : Nat) :
    Degrades EngineError.IsNotReady (Usages.targets degraded uri offset)
      (Usages.targets full uri offset) := by
  refine firstTargets_degrades uri offset _ ?_
  intro strategy member
  simp only [Usages.targetStrategies, List.mem_cons, List.not_mem_nil, or_false] at member
  rcases member with rfl | rfl | rfl
  · exact lacks.usageTargets uri offset
  · exact navigationTargets_degrades lacks uri offset
  · exact polyReferenceTargets_degrades lacks uri offset

theorem ofTargets_degrades (uri : Uri) (offset : Nat) :
    Degrades EngineError.IsNotReady (Usages.ofTargets degraded uri offset)
      (Usages.ofTargets full uri offset) := by
  refine .bind (targets_degrades lacks uri offset) fun targets => ?_
  rw [lacks.topLevelFile]
  refine .mapM (fun symbol => ?_) _
  unfold Usages.ofSymbol
  rw [lacks.accessDetector, lacks.nameRange]
  exact .bind (lacks.references symbol _) fun _ => .refl _ _

/-- The features that a search for usages counts do not depend on the index. -/
theorem find_features_eq (uri : Uri) (offset : Nat) :
    (Usages.find degraded uri offset).features = (Usages.find full uri offset).features := by
  unfold Usages.find
  rw [lacks.usageHighlighter]
  cases full.usageHighlighter uri offset <;> rfl

theorem find_degrades (uri : Uri) (offset : Nat) :
    Degrades EngineError.IsNotReady (Usages.find degraded uri offset).answer
      (Usages.find full uri offset).answer := by
  unfold Usages.find
  rw [lacks.usageHighlighter]
  cases full.usageHighlighter uri offset with
  | some highlighter => exact .refl _ _
  | none => exact ofTargets_degrades lacks uri offset

theorem addUsages_eq (uri : Uri) (index : LineIndex) (shown : HighlightList)
    (sets : List UsageSet) :
    addUsages degraded uri index shown sets = addUsages full uri index shown sets := by
  induction sets generalizing shown with
  | nil => rfl
  | cons usages rest ih => simp only [addUsages, lacks.openDocument, ih]

theorem documentHighlight_features_eq (uri : Uri) (position : Position) :
    (documentHighlight degraded uri position).features =
      (documentHighlight full uri position).features := by
  unfold documentHighlight
  rw [lacks.offsetIn]
  cases offsetIn full uri position with
  | error error => rfl
  | ok offset => exact find_features_eq lacks uri offset

theorem documentHighlight_degrades (uri : Uri) (position : Position) :
    Degrades RequestError.IsNotReady (documentHighlight degraded uri position).answer
      (documentHighlight full uri position).answer := by
  unfold documentHighlight
  rw [lacks.offsetIn]
  cases offsetIn full uri position with
  | error error => exact .refl _ _
  | ok offset =>
    dsimp only
    rw [lacks.openDocument]
    refine .bind (.refl _ _) fun index => ?_
    refine .bind (liftEngine_degrades (find_degrades lacks uri offset)) fun sets => ?_
    rw [addUsages_eq lacks]
    exact .refl _ _

/-! ### Completion -/

theorem completion_degrades (uri : Uri) (position : Position) (snippets : Bool) :
    Degrades RequestError.IsNotReady (completion degraded uri position snippets)
      (completion full uri position snippets) := by
  unfold completion
  rw [lacks.offsetIn]
  refine .bind (.refl _ _) fun offset => ?_
  exact .bind (liftEngine_degrades (lacks.candidates uri offset)) fun _ => .refl _ _

omit lacks

/-! ## The requests of a workspace -/

theorem degrades_iff {α : Type} (answer answer' : Except RequestError α) :
    Degrades RequestError.IsNotReady answer answer' ↔
      (∃ operation, answer = .error (.indexNotReady operation)) ∨ answer = answer' := by
  refine or_congr ?_ Iff.rfl
  constructor
  · rintro ⟨_, ⟨operation, rfl⟩, refused⟩
    exact ⟨operation, refused⟩
  · rintro ⟨operation, refused⟩
    exact ⟨_, ⟨operation, rfl⟩, refused⟩

/-- Each request on a workspace without its index says that the index is not ready, or gives exactly
the answer that it gives with the index. The features that are counted on the way are the same. -/
theorem request_notReady_or_eq (workspace : Workspace) (uri : Uri) (position : Position)
    (snippets : Bool) :
    ((∃ operation, gotoDefinition (workspace.setReady false).engine uri position =
        .error (.indexNotReady operation)) ∨
      gotoDefinition (workspace.setReady false).engine uri position =
        gotoDefinition (workspace.setReady true).engine uri position) ∧
    ((∃ operation, (documentHighlight (workspace.setReady false).engine uri position).answer =
        .error (.indexNotReady operation)) ∨
      (documentHighlight (workspace.setReady false).engine uri position).answer =
        (documentHighlight (workspace.setReady true).engine uri position).answer) ∧
    ((∃ operation, completion (workspace.setReady false).engine uri position snippets =
        .error (.indexNotReady operation)) ∨
      completion (workspace.setReady false).engine uri position snippets =
        completion (workspace.setReady true).engine uri position snippets) ∧
    (documentHighlight (workspace.setReady false).engine uri position).features =
      (documentHighlight (workspace.setReady true).engine uri position).features := by
  have lacks := workspace.setReady_isDegraded
  exact ⟨(degrades_iff _ _).mp (gotoDefinition_degrades lacks uri position),
    (degrades_iff _ _).mp (documentHighlight_degrades lacks uri position),
    (degrades_iff _ _).mp (completion_degrades lacks uri position snippets),
    documentHighlight_features_eq lacks uri position⟩

end CodeBridge

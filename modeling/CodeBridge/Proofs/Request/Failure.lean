import CodeBridge.Proofs.Answer
import CodeBridge.Proofs.Engine.Links
import CodeBridge.Request.Completion
import CodeBridge.Request.Definition
import CodeBridge.Request.Highlight

/-! # How requests can fail

A request asks an engine several questions, and passes the symbols that one answer names on to the
next question. An engine honours its contract with respect to some known symbols if it names no
others and if, asked about known ones, it only fails mildly: its index is not ready, or it lacks a
document. A linked workspace honours the contract with its declarations as the known symbols.

On such an engine a request fails mildly as well once its position has an offset. The one other
failure is that of the position itself.
-/

namespace CodeBridge

/-- A failure that is no fault of the engine: the index is not ready, or the document is not
there. -/
def EngineError.IsMild : EngineError → Prop
  | .indexNotReady _ | .unknownDocument _ => True
  | .snapshot _ | .internal _ => False

/-- A failure that the client sees as an empty list. -/
def RequestError.IsMild : RequestError → Prop
  | .documentNotFound _ | .noDefinition | .indexNotReady _ => True
  | .outOfRange _ | .engine _ => False

theorem RequestError.isMild_ofEngine {error : EngineError} (mild : error.IsMild) :
    (RequestError.ofEngine error).IsMild := by
  cases error with
  | indexNotReady operation => trivial
  | unknownDocument uri => trivial
  | snapshot detail => exact mild.elim
  | internal detail => exact mild.elim

/-- The symbol that an element is or stands for. -/
def TargetElement.symbol? : TargetElement → Option SymbolId
  | .file => none
  | .navigable symbol => some symbol
  | .nonNavigable navigation => navigation

/-- The engine names known symbols only, and fails mildly when it is asked about known ones. -/
structure Engine.Honours (engine : Engine) (known : SymbolId → Prop) : Prop where
  referenceAt : ∀ uri offset,
    Meets EngineError.IsMild (fun _ => True) (engine.referenceAt uri offset)
  resolve : ∀ reference,
    Meets EngineError.IsMild (fun found => ∀ symbol ∈ found, known symbol)
      (engine.resolve reference)
  multiResolve : ∀ reference,
    Meets EngineError.IsMild (fun found => ∀ symbol ∈ found, known symbol)
      (engine.multiResolve reference)
  elementAt : ∀ uri offset,
    Meets EngineError.IsMild (fun _ => True) (engine.elementAt uri offset)
  parent : ∀ node,
    Meets EngineError.IsMild
      (fun found => ∀ parent ∈ found, ∀ method, parent.kind = .methodDeclaration method →
        known method)
      (engine.parent node)
  superMethods : ∀ method, known method →
    Meets EngineError.IsMild (fun _ => True) (engine.superMethods method)
  usageTargets : ∀ uri offset,
    Meets EngineError.IsMild (fun found => ∀ target ∈ found, ∀ symbol ∈ target.symbol?, known symbol)
      (engine.usageTargets uri offset)
  targetElement : ∀ uri offset,
    Meets EngineError.IsMild (fun found => ∀ element ∈ found, ∀ symbol ∈ element.symbol?, known symbol)
      (engine.targetElement uri offset)
  usageHighlighter : ∀ uri offset, ∀ highlighter ∈ engine.usageHighlighter uri offset,
    Meets EngineError.IsMild (fun _ => True) highlighter.usages
  references : ∀ symbol file, known symbol →
    Meets EngineError.IsMild (fun _ => True) (engine.references symbol file)
  candidates : ∀ uri offset,
    Meets EngineError.IsMild (fun _ => True) (engine.candidates uri offset)

/-! ## A linked workspace honours the contract -/

namespace Workspace

variable {workspace : Workspace}

theorem requireIndex_meets (operation : String) :
    Meets EngineError.IsMild (fun _ => True) (workspace.requireIndex operation) := by
  unfold requireIndex
  split
  · trivial
  · trivial

theorem checkSymbol_meets {id : SymbolId} (present : workspace.Has id) :
    Meets EngineError.IsMild (fun _ => True) (workspace.checkSymbol id) := by
  obtain ⟨definition, found⟩ := (has_iff_symbol? id).mp present
  rw [checkSymbol_eq_ok found]
  trivial

theorem resolve_meets (linked : workspace.Linked) (reference : Reference) :
    Meets EngineError.IsMild (fun found => ∀ symbol ∈ found, workspace.Has symbol)
      (workspace.resolve reference) := by
  refine .bind (requireIndex_meets _) fun _ _ => ?_
  split
  · next target single =>
    obtain ⟨entry, found, targets⟩ := Option.map_eq_some_iff.mp single
    rintro symbol ⟨⟩
    exact linked.entry_targets found target (by simp [targets])
  · rintro symbol ⟨⟩

theorem multiResolve_meets (linked : workspace.Linked) (reference : Reference) :
    Meets EngineError.IsMild (fun found => ∀ symbol ∈ found, workspace.Has symbol)
      (workspace.multiResolve reference) := by
  refine .bind (requireIndex_meets _) fun _ _ => ?_
  cases found : workspace.entryOf reference with
  | none => exact List.forall_mem_nil _
  | some entry => exact linked.entry_targets found

theorem identifierAt_meets (uri : Uri) (offset : Nat) :
    Meets EngineError.IsMild (fun _ => True) (workspace.identifierAt uri offset) := by
  unfold identifierAt
  split
  · next id found =>
    obtain ⟨definition, declared⟩ := (has_iff_symbol? id).mp (declarationAt_has found)
    rw [checkSymbol_eq_ok declared]
    trivial
  · trivial

theorem elementAt_meets (uri : Uri) (offset : Nat) :
    Meets EngineError.IsMild (fun _ => True) (workspace.elementAt uri offset) := by
  unfold elementAt
  split
  · trivial
  · refine .bind (identifierAt_meets uri offset) fun range _ => ?_
    cases range <;> trivial

theorem declarationKind_meets {id : SymbolId} (present : workspace.Has id) :
    Meets EngineError.IsMild (fun kind => ∀ method, kind = .methodDeclaration method →
      workspace.Has method) (workspace.declarationKind id) := by
  refine .bind (checkSymbol_meets present) fun definition _ => ?_
  intro method same
  split at same
  · cases same
    exact present
  · cases same

theorem parent_meets (node : SyntaxNode) :
    Meets EngineError.IsMild
      (fun found => ∀ parent ∈ found, ∀ method, parent.kind = .methodDeclaration method →
        workspace.Has method)
      (workspace.parent node) := by
  have file : ∀ parent ∈ workspace.fileNode node.uri, ∀ method,
      parent.kind = .methodDeclaration method → workspace.Has method := by
    intro parent member method same
    obtain ⟨document, -, rfl⟩ := Option.map_eq_some_iff.mp member
    cases same
  unfold parent
  split
  · rintro parent ⟨⟩
  · split
    · next id found =>
      refine .bind (declarationKind_meets (declarationNamed_has found)) fun kind known => ?_
      rintro parent ⟨⟩ method same
      exact known method same
    · rintro parent ⟨⟩ method ⟨⟩
  · exact file
  · exact file
  · exact file

theorem superMethods_meets {method : SymbolId} (present : workspace.Has method) :
    Meets EngineError.IsMild (fun _ => True) (workspace.superMethods method) := by
  refine .bind (requireIndex_meets _) fun _ _ => ?_
  exact .bind (checkSymbol_meets present) fun _ _ => trivial

theorem usageTargets_meets (uri : Uri) (offset : Nat) :
    ∀ target ∈ workspace.usageTargets uri offset, ∀ symbol ∈ target.symbol?,
      workspace.Has symbol := by
  unfold usageTargets
  split
  · next id found =>
    intro target member symbol same
    obtain rfl := List.mem_singleton.mp member
    obtain rfl := Option.some.inj same
    exact declarationAt_has found
  · exact List.forall_mem_nil _

theorem targetElement_meets (linked : workspace.Linked) (uri : Uri) (offset : Nat) :
    Meets EngineError.IsMild
      (fun found => ∀ element ∈ found, ∀ symbol ∈ element.symbol?, workspace.Has symbol)
      (workspace.targetElement uri offset) := by
  unfold targetElement
  split
  · next id found =>
    rintro element ⟨⟩ symbol ⟨⟩
    exact declarationAt_has found
  · split
    · next reference _ =>
      refine .bind (resolve_meets linked reference) fun target known => ?_
      intro element member symbol same
      obtain ⟨actual, rfl, rfl⟩ := Option.map_eq_some_iff.mp member
      obtain rfl := Option.some.inj same
      exact known actual rfl
    · rintro element ⟨⟩

theorem referencesTo_meets {symbol : SymbolId} (present : workspace.Has symbol) (file : Uri) :
    Meets EngineError.IsMild (fun _ => True) (workspace.referencesTo symbol file) := by
  refine .bind (requireIndex_meets _) fun _ _ => ?_
  exact .bind (checkSymbol_meets present) fun _ _ => trivial

theorem candidates_meets (uri : Uri) (offset : Nat) :
    Meets EngineError.IsMild (fun _ => True) (workspace.candidates uri offset) := by
  refine .bind (requireIndex_meets _) fun _ _ => ?_
  split
  · trivial
  · trivial

theorem Linked.engine_honours (linked : workspace.Linked) :
    workspace.engine.Honours workspace.Has where
  referenceAt _ _ := trivial
  resolve := resolve_meets linked
  multiResolve := multiResolve_meets linked
  elementAt := elementAt_meets
  parent := parent_meets
  superMethods _ := superMethods_meets
  usageTargets := usageTargets_meets
  targetElement := targetElement_meets linked
  usageHighlighter := by
    intro uri offset highlighter member
    obtain ⟨region, -, rfl⟩ := Option.map_eq_some_iff.mp member
    trivial
  references _ file present := referencesTo_meets present file
  candidates := candidates_meets

end Workspace

/-! ## Requests on an engine that honours its contract -/

variable {engine : Engine} {known : SymbolId → Prop}

theorem liftEngine_meets {α : Type} {success : α → Prop} {answer : Except EngineError α}
    (meets : Meets EngineError.IsMild success answer) :
    Meets RequestError.IsMild success (liftEngine answer) :=
  meets.mapError fun _ => RequestError.isMild_ofEngine

theorem openDocument_meets (engine : Engine) (uri : Uri) :
    Meets RequestError.IsMild (fun _ => True) (openDocument engine uri) := by
  unfold openDocument
  split
  · trivial
  · trivial

/-! ### Definitions -/

theorem ofReference_meets (honours : engine.Honours known) (uri : Uri) (offset : Nat) :
    Meets EngineError.IsMild (fun _ => True) (Definition.ofReference engine uri offset) := by
  refine .bind (honours.referenceAt uri offset) fun reference _ => ?_
  cases reference with
  | some reference =>
    exact (honours.resolve reference).mono (fun _ mild => mild) fun _ _ => trivial
  | none => trivial

theorem ofSuperMethod_meets (honours : engine.Honours known) (uri : Uri) (offset : Nat) :
    Meets EngineError.IsMild (fun _ => True) (Definition.ofSuperMethod engine uri offset) := by
  refine .bind (honours.elementAt uri offset) fun element _ => ?_
  cases element with
  | none => trivial
  | some element =>
    refine .bind (honours.parent element) fun parent methods => ?_
    split
    · next method =>
      exact .bind (honours.superMethods method (methods _ rfl method rfl)) fun _ _ => trivial
    · trivial

theorem resolveDefinition_meets (honours : engine.Honours known) (uri : Uri) (offset : Nat) :
    Meets RequestError.IsMild (fun _ => True) (Definition.resolve engine uri offset) := by
  have found : Meets EngineError.IsMild (fun _ => True)
      (Definition.firstOf engine uri offset Definition.strategies) := by
    refine .bind (ofReference_meets honours uri offset) fun first _ => ?_
    cases first with
    | some symbol => trivial
    | none =>
      refine .bind (ofSuperMethod_meets honours uri offset) fun second _ => ?_
      cases second <;> trivial
  refine .bind (liftEngine_meets found) fun symbol _ => ?_
  cases symbol <;> trivial

theorem locate_meets (engine : Engine) (symbol : SymbolId) :
    Meets RequestError.IsMild (fun _ => True) (locate engine symbol) := by
  unfold locate
  split
  · trivial
  · exact .bind (openDocument_meets engine _) fun _ _ => trivial

theorem gotoDefinition_meets (honours : engine.Honours known) {uri : Uri} {position : Position}
    {offset : Nat} (atOffset : offsetIn engine uri position = .ok offset) :
    Meets RequestError.IsMild (fun _ => True) (gotoDefinition engine uri position) := by
  unfold gotoDefinition
  rw [atOffset, ok_bind]
  refine .bind (resolveDefinition_meets honours uri offset) fun symbol _ => ?_
  exact .bind (locate_meets engine symbol) fun _ _ => trivial

/-! ### Highlights -/

/-- The targets of a strategy name known symbols. -/
def KnownTargets (known : SymbolId → Prop) (targets : List UsageTarget) : Prop :=
  ∀ target ∈ targets, ∀ symbol ∈ target.symbol?, known symbol

theorem knownTargets_elements {symbols : List SymbolId} (all : ∀ symbol ∈ symbols, known symbol) :
    KnownTargets known (symbols.map Usages.element) := by
  intro target member symbol same
  obtain ⟨actual, present, rfl⟩ := List.mem_map.mp member
  obtain rfl := Option.some.inj same
  exact all actual present

theorem navigationTargets_meets (honours : engine.Honours known) (uri : Uri) (offset : Nat) :
    Meets EngineError.IsMild (KnownTargets known)
      (Usages.navigationTargets engine uri offset) := by
  refine .bind (honours.targetElement uri offset) fun element all => ?_
  have single (symbol : SymbolId) (present : known symbol) :
      KnownTargets known [Usages.element symbol] :=
    knownTargets_elements (List.forall_mem_singleton.mpr present)
  split
  · exact single _ (all _ rfl _ rfl)
  · exact single _ (all _ rfl _ rfl)
  · exact List.forall_mem_nil _
  · exact List.forall_mem_nil _
  · exact List.forall_mem_nil _

theorem polyReferenceTargets_meets (honours : engine.Honours known) (uri : Uri) (offset : Nat) :
    Meets EngineError.IsMild (KnownTargets known)
      (Usages.polyReferenceTargets engine uri offset) := by
  refine .bind (honours.referenceAt uri offset) fun reference _ => ?_
  cases reference with
  | some reference =>
    exact .bind (honours.multiResolve reference) fun symbols all => knownTargets_elements all
  | none => exact List.forall_mem_nil _

/-- The strategies that follow are only asked if the first one finds nothing, and they inherit the
contract from it. -/
theorem firstTargets_meets (uri : Uri) (offset : Nat)
    (strategies : List (String × Usages.TargetStrategy))
    (each : ∀ strategy ∈ strategies,
      Meets EngineError.IsMild (KnownTargets known) (strategy.2 engine uri offset)) :
    Meets EngineError.IsMild (KnownTargets known)
      (Usages.firstTargets engine uri offset strategies) := by
  induction strategies with
  | nil => exact List.forall_mem_nil _
  | cons strategy rest ih =>
    refine .bind (each strategy List.mem_cons_self) fun targets all => ?_
    split
    · exact ih fun other member => each other (List.mem_cons_of_mem _ member)
    · exact all

theorem targets_meets (honours : engine.Honours known) (uri : Uri) (offset : Nat) :
    Meets EngineError.IsMild (KnownTargets known) (Usages.targets engine uri offset) := by
  refine firstTargets_meets uri offset _ ?_
  intro strategy member
  simp only [Usages.targetStrategies, List.mem_cons, List.not_mem_nil, or_false] at member
  rcases member with rfl | rfl | rfl
  · exact honours.usageTargets uri offset
  · exact navigationTargets_meets honours uri offset
  · exact polyReferenceTargets_meets honours uri offset

theorem ofTargets_meets (honours : engine.Honours known) (uri : Uri) (offset : Nat) :
    Meets EngineError.IsMild (fun _ => True) (Usages.ofTargets engine uri offset) := by
  refine .bind (targets_meets honours uri offset) fun targets all => ?_
  have each : ∀ symbol ∈ targets.filterMap UsageTarget.symbol?,
      Meets EngineError.IsMild (fun _ => True)
        (Usages.ofSymbol engine (engine.topLevelFile uri) symbol) := by
    intro symbol member
    obtain ⟨target, present, same⟩ := List.mem_filterMap.mp member
    exact .bind (honours.references symbol _ (all target present symbol same)) fun _ _ => trivial
  exact (Meets.mapM each).mono (fun _ mild => mild) fun _ _ => trivial

theorem find_meets (honours : engine.Honours known) (uri : Uri) (offset : Nat) :
    Meets EngineError.IsMild (fun _ => True) (Usages.find engine uri offset).answer := by
  unfold Usages.find
  split
  · next highlighter found =>
    exact (honours.usageHighlighter uri offset highlighter found).map fun _ _ => trivial
  · exact ofTargets_meets honours uri offset

theorem addUsages_meets (engine : Engine) (uri : Uri) (index : LineIndex) (shown : HighlightList)
    (sets : List UsageSet) :
    Meets RequestError.IsMild (fun _ => True) (addUsages engine uri index shown sets) := by
  induction sets generalizing shown with
  | nil => trivial
  | cons usages rest ih =>
    unfold addUsages
    split
    · exact ih (shown.add usages index)
    · exact .bind (openDocument_meets engine _) fun _ _ => ih _

theorem documentHighlight_meets (honours : engine.Honours known) {uri : Uri} {position : Position}
    {offset : Nat} (atOffset : offsetIn engine uri position = .ok offset) :
    Meets RequestError.IsMild (fun _ => True) (documentHighlight engine uri position).answer := by
  unfold documentHighlight
  rw [atOffset]
  refine .bind (openDocument_meets engine uri) fun index _ => ?_
  refine .bind (liftEngine_meets (find_meets honours uri offset)) fun sets _ => ?_
  exact .bind (addUsages_meets engine uri index .empty sets) fun _ _ => trivial

/-! ### Completion -/

theorem completion_meets (honours : engine.Honours known) {uri : Uri} {position : Position}
    {offset : Nat} (snippets : Bool) (atOffset : offsetIn engine uri position = .ok offset) :
    Meets RequestError.IsMild (fun _ => True) (completion engine uri position snippets) := by
  unfold completion
  rw [atOffset, ok_bind]
  exact .bind (liftEngine_meets (honours.candidates uri offset)) fun _ _ => trivial

end CodeBridge

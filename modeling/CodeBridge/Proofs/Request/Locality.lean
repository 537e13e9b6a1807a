import CodeBridge.Proofs.Engine.Elsewhere
import CodeBridge.Proofs.Request.Failure
import CodeBridge.Proofs.Request.Occurrences
import Mathlib

/-! # Requests and other documents

A request is about one document, and it asks no more than this document leads to: about the document
itself and the one that it is injected into, about what it finds at the cursor, and about the symbols
that it is told of. Two engines that answer all of that alike (`Engine.AgreesAbout`) cannot be told
apart by it.

A linked workspace and what becomes of it by additions to other documents are two such engines. So
documents do not interfere, although they share their tables.
-/

namespace CodeBridge

/-- `other` answers as `engine` does whatever a request in a document can ask. Only known symbols
are asked about. -/
structure Engine.AgreesAbout (engine other : Engine) (uri : Uri) (known : SymbolId → Prop) :
    Prop where
  topLevelFile : other.topLevelFile uri = engine.topLevelFile uri
  documentText : ∀ file, file = uri ∨ file = engine.topLevelFile uri →
    other.documentText file = engine.documentText file
  referenceAt : ∀ offset, other.referenceAt uri offset = engine.referenceAt uri offset
  resolve : ∀ offset reference, engine.referenceAt uri offset = .ok (some reference) →
    other.resolve reference = engine.resolve reference
  multiResolve : ∀ offset reference, engine.referenceAt uri offset = .ok (some reference) →
    other.multiResolve reference = engine.multiResolve reference
  elementAt : ∀ offset, other.elementAt uri offset = engine.elementAt uri offset
  parent : ∀ offset node, engine.elementAt uri offset = .ok (some node) →
    other.parent node = engine.parent node
  superMethods : ∀ method, known method → other.superMethods method = engine.superMethods method
  usageTargets : ∀ offset, other.usageTargets uri offset = engine.usageTargets uri offset
  targetElement : ∀ offset, other.targetElement uri offset = engine.targetElement uri offset
  usageHighlighter : ∀ offset,
    other.usageHighlighter uri offset = engine.usageHighlighter uri offset
  ofSymbol : ∀ symbol, known symbol →
    Usages.ofSymbol other (engine.topLevelFile uri) symbol =
      Usages.ofSymbol engine (engine.topLevelFile uri) symbol
  candidates : ∀ offset, other.candidates uri offset = engine.candidates uri offset

/-! ## Documents of usages -/

theorem file_of_ofSymbol {engine : Engine} {file : Uri} {symbol : SymbolId} {usages : UsageSet}
    (success : Usages.ofSymbol engine file symbol = .ok usages) : usages.file = file := by
  obtain ⟨references, -, success⟩ := bind_eq_ok_iff.mp success
  cases success
  cases engine.accessDetector symbol with
  | none => rfl
  | some detector => rfl

/-- Usages are shown in the document at hand or in the one that it is injected into. -/
theorem file_of_find {engine : Engine} {uri : Uri} {offset : Nat} {sets : List UsageSet}
    (success : (Usages.find engine uri offset).answer = .ok sets) {usages : UsageSet}
    (member : usages ∈ sets) : usages.file = uri ∨ usages.file = engine.topLevelFile uri := by
  unfold Usages.find at success
  split at success
  · next highlighter _ =>
    simp only [Usages.ofHighlighter] at success
    cases ranges : highlighter.usages with
    | error error =>
      rw [ranges] at success
      cases success
    | ok ranges' =>
      rw [ranges] at success
      cases success
      obtain rfl := List.mem_singleton.mp member
      exact .inl rfl
  · obtain ⟨targets, -, success⟩ := bind_eq_ok_iff.mp success
    obtain ⟨symbol, -, found⟩ := exists_of_mapM_eq_ok success member
    exact .inr (file_of_ofSymbol found)

/-- Of the engine, showing usages only takes the texts of their documents. -/
theorem addUsages_congr {engine other : Engine} {uri : Uri} {index : LineIndex}
    {shown : HighlightList} {sets : List UsageSet}
    (same : ∀ usages ∈ sets,
      other.documentText usages.file = engine.documentText usages.file) :
    addUsages other uri index shown sets = addUsages engine uri index shown sets := by
  induction sets generalizing shown with
  | nil => rfl
  | cons usages rest ih =>
    obtain ⟨first, later⟩ := List.forall_mem_cons.mp same
    simp only [addUsages, openDocument, first, ih later]

/-! ## Requests -/

section Requests

variable {engine other : Engine} {known : SymbolId → Prop} {uri : Uri}
  (honours : engine.Honours known) (agrees : engine.AgreesAbout other uri known)
include agrees

theorem offsetIn_eq_of_agrees (position : Position) :
    offsetIn other uri position = offsetIn engine uri position := by
  rw [offsetIn, offsetIn, openDocument, openDocument, agrees.documentText uri (.inl rfl)]

theorem completion_eq_of_agrees (position : Position) (snippets : Bool) :
    completion other uri position snippets = completion engine uri position snippets := by
  simp only [completion, offsetIn_eq_of_agrees agrees, agrees.candidates]

theorem ofReference_eq_of_agrees (offset : Nat) :
    Definition.ofReference other uri offset = Definition.ofReference engine uri offset := by
  unfold Definition.ofReference
  rw [agrees.referenceAt]
  refine bind_congr_of_ok fun reference found => ?_
  cases reference with
  | some reference => exact agrees.resolve offset reference found
  | none => rfl

theorem polyReferenceTargets_eq_of_agrees (offset : Nat) :
    Usages.polyReferenceTargets other uri offset =
      Usages.polyReferenceTargets engine uri offset := by
  unfold Usages.polyReferenceTargets
  rw [agrees.referenceAt]
  refine bind_congr_of_ok fun reference found => ?_
  cases reference with
  | some reference => simp only [agrees.multiResolve offset reference found]
  | none => rfl

theorem targets_eq_of_agrees (offset : Nat) :
    Usages.targets other uri offset = Usages.targets engine uri offset := by
  simp only [Usages.targets, Usages.targetStrategies, Usages.firstTargets, Usages.engineTargets,
    Usages.navigationTargets, agrees.usageTargets, agrees.targetElement,
    polyReferenceTargets_eq_of_agrees agrees]

include honours

theorem ofSuperMethod_eq_of_agrees (offset : Nat) :
    Definition.ofSuperMethod other uri offset = Definition.ofSuperMethod engine uri offset := by
  unfold Definition.ofSuperMethod
  rw [agrees.elementAt]
  refine bind_congr_of_ok fun element found => ?_
  cases element with
  | none => rfl
  | some element =>
    simp only [agrees.parent offset element found]
    refine bind_congr_of_ok fun parent above => ?_
    split
    · next method =>
      have named := honours.parent element
      rw [above] at named
      rw [agrees.superMethods method (named _ rfl method rfl)]
    · rfl

theorem resolve_eq_of_agrees (offset : Nat) :
    Definition.resolve other uri offset = Definition.resolve engine uri offset := by
  simp only [Definition.resolve, Definition.strategies, Definition.firstOf,
    ofReference_eq_of_agrees agrees, ofSuperMethod_eq_of_agrees honours agrees]

theorem ofTargets_eq_of_agrees (offset : Nat) :
    Usages.ofTargets other uri offset = Usages.ofTargets engine uri offset := by
  unfold Usages.ofTargets
  rw [targets_eq_of_agrees agrees, agrees.topLevelFile]
  refine bind_congr_of_ok fun targets found => mapM_congr_of_mem fun symbol member => ?_
  have all := targets_meets honours uri offset
  rw [found] at all
  obtain ⟨target, present, same⟩ := List.mem_filterMap.mp member
  exact agrees.ofSymbol symbol (all target present symbol same)

theorem find_eq_of_agrees (offset : Nat) :
    Usages.find other uri offset = Usages.find engine uri offset := by
  rw [Usages.find, Usages.find, agrees.usageHighlighter, ofTargets_eq_of_agrees honours agrees]

theorem documentHighlight_eq_of_agrees (position : Position) :
    documentHighlight other uri position = documentHighlight engine uri position := by
  unfold documentHighlight
  rw [offsetIn_eq_of_agrees agrees]
  cases offsetIn engine uri position with
  | error error => rfl
  | ok offset =>
    simp only [find_eq_of_agrees honours agrees, openDocument, agrees.documentText uri (.inl rfl)]
    congr 1
    refine bind_congr_of_ok fun index _ => bind_congr_of_ok fun sets found => ?_
    have files : ∀ usages ∈ sets,
        other.documentText usages.file = engine.documentText usages.file := by
      intro usages member
      exact agrees.documentText _ (file_of_find (liftEngine_eq_ok_iff.mp found) member)
    rw [addUsages_congr files]

end Requests

/-! ## Workspaces -/

namespace Workspace

variable {workspace other : Workspace} {uri : Uri}

theorem Indexed.uri_of_referencesTo (indexed : workspace.Indexed) {symbol : SymbolId} {file : Uri}
    {references : List Reference} (found : workspace.referencesTo symbol file = .ok references)
    {reference : Reference} (member : reference ∈ references) : reference.uri = file := by
  obtain ⟨_, -, found⟩ := bind_eq_ok_iff.mp found
  obtain ⟨_, -, found⟩ := bind_eq_ok_iff.mp found
  cases found
  obtain ⟨entry, kept, rfl⟩ := List.mem_map.mp (List.mem_mergeSort.mp member)
  exact indexed.uri_of_mem_referencesIn (List.mem_filter.mp kept).1

/-- References of documents on which two workspaces agree are divided in the same way. -/
theorem AgreesOn.classify {files : List Uri} (agrees : workspace.AgreesOn other files) {file : Uri}
    {symbol : SymbolId} (present : workspace.Has symbol) {references : List Reference}
    (inside : ∀ reference ∈ references, reference.uri ∈ files) :
    Usages.classify file references (other.accessDetector symbol) =
      Usages.classify file references (workspace.accessDetector symbol) := by
  have access (kind : Access) : references.filter (other.referenceAccess · = kind) =
      references.filter (workspace.referenceAccess · = kind) := by
    refine List.filter_congr fun reference member => ?_
    rw [agrees.referenceAccess (inside reference member)]
  unfold accessDetector
  rw [agrees.symbol? present]
  cases workspace.symbol? symbol with
  | none => rfl
  | some definition =>
    dsimp only
    split
    · simp only [Usages.classify, access]
    · rfl

theorem AgreesOn.ofSymbol {files : List Uri} (agrees : workspace.AgreesOn other files)
    (indexed : workspace.Indexed) {file : Uri} (here : file ∈ files) {symbol : SymbolId}
    (present : workspace.Has symbol) :
    Usages.ofSymbol other.engine file symbol = Usages.ofSymbol workspace.engine file symbol := by
  have kind : Usages.declarationKind (other.accessDetector symbol) =
      Usages.declarationKind (workspace.accessDetector symbol) := by
    rw [declarationKind_accessDetector, declarationKind_accessDetector, nameKind, nameKind,
      agrees.symbol? present]
  simp only [Usages.ofSymbol, engine, agrees.referencesTo here present,
    agrees.nameRange file present, kind]
  refine bind_congr_of_ok fun references found => ?_
  have inside : ∀ reference ∈ references, reference.uri ∈ files := by
    intro reference member
    rw [indexed.uri_of_referencesTo found member]
    exact here
  rw [agrees.classify present inside]

/-- Two workspaces that agree on a document and on the one that it is injected into answer alike
whatever a request in the document can ask. -/
theorem AgreesOn.agreesAbout (agrees : workspace.AgreesOn other [uri, workspace.topLevelFile uri])
    (indexed : workspace.Indexed) :
    workspace.engine.AgreesAbout other.engine uri workspace.Has := by
  have here : uri ∈ [uri, workspace.topLevelFile uri] := List.mem_cons_self
  have host : workspace.topLevelFile uri ∈ [uri, workspace.topLevelFile uri] :=
    List.mem_cons_of_mem _ (List.mem_singleton_self _)
  have found {offset : Nat} {reference : Reference}
      (atOffset : workspace.engine.referenceAt uri offset = .ok (some reference)) :
      reference.uri ∈ [uri, workspace.topLevelFile uri] := by
    rw [indexed.uri_of_referenceAt (Except.ok.inj atOffset)]
    exact here
  refine
    { topLevelFile := agrees.topLevelFile here
      documentText := ?_
      referenceAt := fun offset => congrArg Except.ok (agrees.referenceAt here offset)
      resolve := fun offset reference atOffset => agrees.resolve (found atOffset)
      multiResolve := fun offset reference atOffset => agrees.multiResolve (found atOffset)
      elementAt := agrees.elementAt here
      parent := ?_
      superMethods := fun method present => agrees.superMethods present
      usageTargets := fun offset => congrArg Except.ok (agrees.usageTargets here offset)
      targetElement := agrees.targetElement here indexed
      usageHighlighter := agrees.usageHighlighter here
      ofSymbol := fun symbol present => agrees.ofSymbol indexed host present
      candidates := agrees.candidates here }
  · rintro file (rfl | rfl)
    · exact congrArg (Option.map Document.text) (agrees.document? _ here)
    · exact congrArg (Option.map Document.text) (agrees.document? _ host)
  · intro offset node atOffset
    refine agrees.parent ?_
    rw [uri_of_elementAt atOffset]
    exact here

/-- Additions to other documents than one and the one that it is injected into change no answer to a
request there, however many they are and whether or not the index is ready. -/
theorem requests_unchanged_by_additions_elsewhere {changes additions : List Change} {uri : Uri}
    (linked : (empty.run changes).Linked)
    (avoid : ∀ change ∈ additions,
      change.Avoids [uri, (empty.run changes).topLevelFile uri]) :
    let before := (empty.run changes).engine
    let after := ((empty.run changes).run additions).engine
    (∀ position, documentHighlight after uri position = documentHighlight before uri position) ∧
    (∀ position snippets,
      completion after uri position snippets = completion before uri position snippets) ∧
    ∀ offset, Definition.resolve after uri offset = Definition.resolve before uri offset := by
  have indexed : (empty.run changes).Indexed := run_indexed empty_indexed changes
  have honours := linked.engine_honours
  have agrees := (run_agreesOn indexed avoid).agreesAbout indexed
  exact ⟨documentHighlight_eq_of_agrees honours agrees, completion_eq_of_agrees agrees,
    resolve_eq_of_agrees honours agrees⟩

/-- A fragment that is injected into a document and refers to a variable of that document. -/
def injectedChanges : List Change :=
  [.document { uri := ⟨"file:///a"⟩, text := "x x" },
    .document { uri := ⟨"file:///a.sql"⟩, text := "x", host := some ⟨"file:///a"⟩ },
    .symbol (.ofName "x" .localVar ⟨"file:///a"⟩ 0),
    .reference { uri := ⟨"file:///a"⟩, range := ⟨2, 3⟩, targets := [.ofIndex 0] },
    .reference { uri := ⟨"file:///a.sql"⟩, range := ⟨0, 1⟩, targets := [.ofIndex 0] }]

/-- The same spans and the same variable once more, in a document of their own. -/
def foreignAdditions : List Change :=
  [.highlighter { uri := ⟨"file:///b"⟩, trigger := ⟨0, 1⟩, featureId := some "loop" },
    .reference
      { uri := ⟨"file:///b"⟩, range := ⟨0, 1⟩, targets := [.ofIndex 1, .ofIndex 0], access := .write },
    .symbol (.ofName "x" .method ⟨"file:///b"⟩ 0),
    .document { uri := ⟨"file:///b"⟩, text := "x", host := some ⟨"file:///a"⟩ },
    .completion ⟨"file:///b"⟩ { rawLabel := "x", declaration := .other }]

theorem requests_unchanged_by_additions_elsewhere_injected :
    let workspace := empty.run injectedChanges
    workspace.Linked ∧
      (∀ change ∈ foreignAdditions,
        change.Avoids [⟨"file:///a.sql"⟩, workspace.topLevelFile ⟨"file:///a.sql"⟩]) ∧
      (documentHighlight (workspace.run foreignAdditions).engine ⟨"file:///a.sql"⟩ ⟨0, 0⟩).answer =
        .ok [⟨⟨⟨0, 2⟩, ⟨0, 3⟩⟩, .read⟩, ⟨⟨⟨0, 0⟩, ⟨0, 1⟩⟩, .text⟩] ∧
      Definition.resolve (workspace.run foreignAdditions).engine ⟨"file:///a.sql"⟩ 0 =
        .ok (.ofIndex 0) := by
  intro workspace
  have linked : workspace.Linked := by decide
  have avoid : ∀ change ∈ foreignAdditions,
      change.Avoids [⟨"file:///a.sql"⟩, workspace.topLevelFile ⟨"file:///a.sql"⟩] := by decide
  have shown : (documentHighlight workspace.engine ⟨"file:///a.sql"⟩ ⟨0, 0⟩).answer =
      .ok [⟨⟨⟨0, 2⟩, ⟨0, 3⟩⟩, .read⟩, ⟨⟨⟨0, 0⟩, ⟨0, 1⟩⟩, .text⟩] := by cbv
  obtain ⟨highlights, -, definitions⟩ := requests_unchanged_by_additions_elsewhere linked avoid
  refine ⟨linked, avoid, ?_, ?_⟩
  · rw [highlights]
    exact shown
  · rw [definitions]
    rfl

end Workspace

end CodeBridge

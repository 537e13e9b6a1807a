import CodeBridge.Proofs.Engine.Nodes

/-! # Additions elsewhere

All documents share the tables of a workspace, and a look-up goes through the whole of them. What is
added for other documents is passed over all the same. Two workspaces agree on some documents if one
has all that the other has about these documents, and further entries only about others
(`Workspace.AgreesOn`). Then every question about one of these documents has the same answer in
both, as long as it is about symbols that both have.
-/

namespace CodeBridge

namespace Workspace

/-- The change adds something, and not to any of the given documents. -/
def Change.Avoids (files : List Uri) : Change → Prop
  | .document entry => entry.uri ∉ files
  | .symbol entry => entry.location.uri ∉ files
  | .reference entry => entry.uri ∉ files
  | .highlighter entry => entry.uri ∉ files
  | .completion uri _ => uri ∉ files
  | .feature _ => True
  | .ready _ => False

instance (files : List Uri) : (change : Change) → Decidable (change.Avoids files)
  | .document entry => inferInstanceAs (Decidable (entry.uri ∉ files))
  | .symbol entry => inferInstanceAs (Decidable (entry.location.uri ∉ files))
  | .reference entry => inferInstanceAs (Decidable (entry.uri ∉ files))
  | .highlighter entry => inferInstanceAs (Decidable (entry.uri ∉ files))
  | .completion uri _ => inferInstanceAs (Decidable (uri ∉ files))
  | .feature _ => inferInstanceAs (Decidable True)
  | .ready _ => inferInstanceAs (Decidable False)

/-- `other` has what `workspace` has about the given documents, and further declarations only in
other documents. -/
structure AgreesOn (workspace other : Workspace) (files : List Uri) : Prop where
  document? : ∀ file ∈ files, other.document? file = workspace.document? file
  symbols : ∃ added, other.symbols = workspace.symbols ++ added ∧
    ∀ definition ∈ added, definition.location.uri ∉ files
  referencesIn : ∀ file ∈ files, other.referencesIn file = workspace.referencesIn file
  highlighters : ∀ file ∈ files,
    other.highlighters.filter (·.uri = file) = workspace.highlighters.filter (·.uri = file)
  completionsIn : ∀ file ∈ files, other.completionsIn file = workspace.completionsIn file
  ready : other.ready = workspace.ready

variable {workspace other : Workspace} {files : List Uri}

/-! ## Runs of additions -/

theorem AgreesOn.refl (workspace : Workspace) (files : List Uri) :
    workspace.AgreesOn workspace files where
  document? _ _ := rfl
  symbols := ⟨[], (List.append_nil _).symm, List.forall_mem_nil _⟩
  referencesIn _ _ := rfl
  highlighters _ _ := rfl
  completionsIn _ _ := rfl
  ready := rfl

theorem AgreesOn.trans {third : Workspace} (left : workspace.AgreesOn other files)
    (right : other.AgreesOn third files) : workspace.AgreesOn third files where
  document? file here := (right.document? file here).trans (left.document? file here)
  symbols := by
    obtain ⟨first, symbols, apart⟩ := left.symbols
    obtain ⟨second, symbols', apart'⟩ := right.symbols
    refine ⟨first ++ second, ?_, List.forall_mem_append.mpr ⟨apart, apart'⟩⟩
    rw [symbols', symbols, List.append_assoc]
  referencesIn file here := (right.referencesIn file here).trans (left.referencesIn file here)
  highlighters file here := (right.highlighters file here).trans (left.highlighters file here)
  completionsIn file here := (right.completionsIn file here).trans (left.completionsIn file here)
  ready := right.ready.trans left.ready

/-- A change that avoids some documents leaves alone what the workspace has about them. -/
theorem apply_agreesOn (indexed : workspace.Indexed) {change : Change}
    (avoids : change.Avoids files) : workspace.AgreesOn (workspace.apply change) files := by
  have apart {file added : Uri} (here : file ∈ files) (away : added ∉ files) : added ≠ file :=
    fun same => away (same ▸ here)
  have same := AgreesOn.refl workspace files
  cases change with
  | document document =>
    refine { same with document? := fun file here => ?_ }
    exact List.find?_cons_of_neg (by simpa using apart here avoids)
  | symbol definition =>
    exact { same with symbols := ⟨[definition], rfl, List.forall_mem_singleton.mpr avoids⟩ }
  | reference reference =>
    refine { same with referencesIn := fun file here => ?_ }
    have indexed' := addReference_indexed indexed reference
    change (workspace.addReference reference).referencesIn file = _
    rw [indexed'.referencesIn, indexed.referencesIn, addReference, List.filter_append]
    simp [apart here avoids]
  | highlighter region =>
    refine { same with highlighters := fun file here => ?_ }
    change (workspace.highlighters ++ [region]).filter _ = _
    rw [List.filter_append]
    simp [apart here avoids]
  | completion uri candidate =>
    refine { same with completionsIn := fun file here => ?_ }
    change ((workspace.completions ++ [(uri, candidate)]).filter _).map _ = _
    rw [List.filter_append]
    simp [apart here avoids, completionsIn]
  | feature featureId => exact { same with }
  | ready ready => exact avoids.elim

theorem run_agreesOn (indexed : workspace.Indexed) {additions : List Change}
    (avoid : ∀ change ∈ additions, change.Avoids files) :
    workspace.AgreesOn (workspace.run additions) files := by
  induction additions generalizing workspace with
  | nil => exact .refl workspace files
  | cons change rest ih =>
    obtain ⟨first, later⟩ := List.forall_mem_cons.mp avoid
    exact (apply_agreesOn indexed first).trans (ih (apply_indexed indexed change) later)

/-! ## Look-ups -/

section Lookups

variable (agrees : workspace.AgreesOn other files) {uri : Uri} (here : uri ∈ files)
include agrees

theorem AgreesOn.requireIndex (operation : String) :
    other.requireIndex operation = workspace.requireIndex operation := by
  rw [Workspace.requireIndex, Workspace.requireIndex, agrees.ready]

/-- A symbol that the smaller workspace has is the same in both. -/
theorem AgreesOn.symbol? {id : SymbolId} (present : workspace.Has id) :
    other.symbol? id = workspace.symbol? id := by
  obtain ⟨added, symbols, -⟩ := agrees.symbols
  rw [Workspace.symbol?, symbols, List.getElem?_append_left present]
  rfl

theorem AgreesOn.checkSymbol {id : SymbolId} (present : workspace.Has id) :
    other.checkSymbol id = workspace.checkSymbol id := by
  rw [Workspace.checkSymbol, Workspace.checkSymbol, agrees.symbol? present]

theorem AgreesOn.entryOf {reference : Reference} (here : reference.uri ∈ files) :
    other.entryOf reference = workspace.entryOf reference := by
  rw [Workspace.entryOf, Workspace.entryOf, agrees.referencesIn _ here]

include here

/-- A search for a declaration of a document passes over those that were added to others. -/
theorem AgreesOn.findIdx?_symbols {test : SymbolDefinition → Bool}
    (inside : ∀ definition, test definition = true → definition.location.uri = uri) :
    other.symbols.findIdx? test = workspace.symbols.findIdx? test := by
  obtain ⟨added, symbols, apart⟩ := agrees.symbols
  have none : added.findIdx? test = none := by
    rw [List.findIdx?_eq_none_iff]
    intro definition member
    refine Bool.eq_false_iff.mpr fun passes => apart definition member ?_
    exact inside definition passes ▸ here
  rw [symbols, List.findIdx?_append, none]
  simp

theorem AgreesOn.declarationAt (offset : Nat) :
    other.declarationAt uri offset = workspace.declarationAt uri offset := by
  rw [Workspace.declarationAt, agrees.findIdx?_symbols here]
  · rfl
  · exact fun definition covers => (SymbolDefinition.covers_iff.mp covers).1

theorem AgreesOn.declarationNamed (span : Span) :
    other.declarationNamed uri span = workspace.declarationNamed uri span := by
  rw [Workspace.declarationNamed, agrees.findIdx?_symbols here]
  · rfl
  · exact fun definition named => (SymbolDefinition.isNamedAt_iff.mp named).1

theorem AgreesOn.fileNode : other.fileNode uri = workspace.fileNode uri := by
  rw [Workspace.fileNode, Workspace.fileNode, agrees.document? uri here]

theorem AgreesOn.topLevelFile : other.topLevelFile uri = workspace.topLevelFile uri := by
  rw [Workspace.topLevelFile, Workspace.topLevelFile, agrees.document? uri here]

theorem AgreesOn.referenceOver (offset : Nat) :
    other.referenceOver uri offset = workspace.referenceOver uri offset := by
  rw [Workspace.referenceOver, Workspace.referenceOver, agrees.referencesIn uri here]

theorem AgreesOn.regionAt (offset : Nat) :
    other.regionAt uri offset = workspace.regionAt uri offset := by
  have inside (workspace : Workspace) : workspace.regionAt uri offset =
      (workspace.highlighters.filter (·.uri = uri)).find? (·.trigger.contains offset) := by
    rw [Workspace.regionAt, List.find?_filter]
    simp
  rw [inside, inside, agrees.highlighters uri here]

end Lookups

/-! ## Answers -/

theorem Indexed.uri_of_mem_referencesIn (indexed : workspace.Indexed) {uri : Uri}
    {entry : SymbolReference} (member : entry ∈ workspace.referencesIn uri) : entry.uri = uri := by
  rw [indexed.referencesIn, List.mem_filter] at member
  exact of_decide_eq_true member.2

/-- The reference over an offset of a document stands in that document. -/
theorem Indexed.uri_of_referenceAt (indexed : workspace.Indexed) {uri : Uri} {offset : Nat}
    {reference : Reference} (found : workspace.referenceAt uri offset = some reference) :
    reference.uri = uri := by
  obtain ⟨entry, first, rfl⟩ := Option.map_eq_some_iff.mp found
  exact indexed.uri_of_mem_referencesIn (List.mem_of_find?_eq_some first)

theorem uri_of_elementAt {uri : Uri} {offset : Nat} {node : SyntaxNode}
    (found : workspace.elementAt uri offset = .ok (some node)) : node.uri = uri := by
  rcases elementAt_cases found with ⟨range, rfl⟩ | whole
  · rfl
  · obtain ⟨document, -, rfl⟩ := Option.map_eq_some_iff.mp whole
    rfl

section Answers

variable (agrees : workspace.AgreesOn other files) {uri : Uri} (here : uri ∈ files)
include agrees

theorem AgreesOn.superMethods {method : SymbolId} (present : workspace.Has method) :
    other.superMethods method = workspace.superMethods method := by
  rw [Workspace.superMethods, Workspace.superMethods, agrees.requireIndex,
    agrees.checkSymbol present]

theorem AgreesOn.declarationKind {id : SymbolId} (present : workspace.Has id) :
    other.declarationKind id = workspace.declarationKind id := by
  rw [Workspace.declarationKind, Workspace.declarationKind, agrees.checkSymbol present]

theorem AgreesOn.nameRange (file : Uri) {symbol : SymbolId} (present : workspace.Has symbol) :
    other.nameRange file symbol = workspace.nameRange file symbol := by
  rw [Workspace.nameRange, Workspace.nameRange, agrees.symbol? present]

theorem AgreesOn.resolve {reference : Reference} (here : reference.uri ∈ files) :
    other.resolve reference = workspace.resolve reference := by
  rw [Workspace.resolve, Workspace.resolve, agrees.requireIndex, agrees.entryOf here]

theorem AgreesOn.multiResolve {reference : Reference} (here : reference.uri ∈ files) :
    other.multiResolve reference = workspace.multiResolve reference := by
  rw [Workspace.multiResolve, Workspace.multiResolve, agrees.requireIndex, agrees.entryOf here]

theorem AgreesOn.referenceAccess {reference : Reference} (here : reference.uri ∈ files) :
    other.referenceAccess reference = workspace.referenceAccess reference := by
  rw [Workspace.referenceAccess, Workspace.referenceAccess, agrees.entryOf here]

theorem AgreesOn.parent {node : SyntaxNode} (here : node.uri ∈ files) :
    other.parent node = workspace.parent node := by
  unfold Workspace.parent
  rw [agrees.declarationNamed here, agrees.fileNode here]
  cases named : workspace.declarationNamed node.uri node.range with
  | none => rfl
  | some id => simp only [agrees.declarationKind (declarationNamed_has named)]

include here

theorem AgreesOn.referenceAt (offset : Nat) :
    other.referenceAt uri offset = workspace.referenceAt uri offset := by
  rw [Workspace.referenceAt, Workspace.referenceAt, agrees.referenceOver here]

theorem AgreesOn.identifierAt (offset : Nat) :
    other.identifierAt uri offset = workspace.identifierAt uri offset := by
  unfold Workspace.identifierAt
  rw [agrees.declarationAt here, agrees.referenceOver here]
  cases declared : workspace.declarationAt uri offset with
  | none => rfl
  | some id => simp only [agrees.checkSymbol (declarationAt_has declared)]

theorem AgreesOn.elementAt (offset : Nat) :
    other.elementAt uri offset = workspace.elementAt uri offset := by
  unfold Workspace.elementAt
  rw [agrees.document? uri here, agrees.identifierAt here, agrees.fileNode here]

theorem AgreesOn.usageTargets (offset : Nat) :
    other.usageTargets uri offset = workspace.usageTargets uri offset := by
  unfold Workspace.usageTargets
  rw [agrees.declarationAt here]
  cases declared : workspace.declarationAt uri offset with
  | none => rfl
  | some id => simp only [agrees.symbol? (declarationAt_has declared)]

theorem AgreesOn.targetElement (indexed : workspace.Indexed) (offset : Nat) :
    other.targetElement uri offset = workspace.targetElement uri offset := by
  unfold Workspace.targetElement
  rw [agrees.declarationAt here, agrees.referenceAt here]
  cases reference : workspace.referenceAt uri offset with
  | none => rfl
  | some found =>
    obtain rfl := indexed.uri_of_referenceAt reference
    simp only [agrees.resolve here]

theorem AgreesOn.usageHighlighter (offset : Nat) :
    other.usageHighlighter uri offset = workspace.usageHighlighter uri offset := by
  rw [Workspace.usageHighlighter, Workspace.usageHighlighter, agrees.regionAt here]

theorem AgreesOn.referencesTo {symbol : SymbolId} (present : workspace.Has symbol) :
    other.referencesTo symbol uri = workspace.referencesTo symbol uri := by
  rw [Workspace.referencesTo, Workspace.referencesTo, agrees.requireIndex,
    agrees.checkSymbol present, agrees.referencesIn uri here]

theorem AgreesOn.candidates (offset : Nat) :
    other.candidates uri offset = workspace.candidates uri offset := by
  rw [Workspace.candidates, Workspace.candidates, agrees.requireIndex,
    agrees.document? uri here, agrees.completionsIn uri here]

end Answers

end Workspace

end CodeBridge

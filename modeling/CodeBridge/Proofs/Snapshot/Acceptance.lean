import CodeBridge.Proofs.Engine.Links

/-! # What becomes of a snapshot

A snapshot becomes a workspace exactly if every number in it is that of one of its declarations. If
one is not, the refusal names the first such number, in the order in which a reader comes to them:
the super methods of the declarations, then the targets of the references.

The workspace of an accepted snapshot answers with the tables of the snapshot. URIs may repeat in
them. Of documents under one URI the last counts, while the candidates under one URI are all kept.
-/

namespace CodeBridge

namespace Snapshot

/-! ## Links -/

/-- Of all numbers that a list of entries holds, `id` is the first that is not below `count`, and it
is one of `entry`. -/
structure FirstBeyond {α : Type} (count : Nat) (ids : α → List SymbolId) (entries : List α)
    (entry : α) (id : SymbolId) : Prop where
  beyond : count ≤ id.index
  entry_first : ∃ before after, entries = before ++ entry :: after ∧
    ∀ earlier ∈ before, ∀ other ∈ ids earlier, other.index < count
  id_first : ∃ before after, ids entry = before ++ id :: after ∧
    ∀ other ∈ before, other.index < count

/-- A link with the first number that is not that of a declaration. -/
inductive FirstDangling (snapshot : Snapshot) : Link → Prop
  | superMethod {definition : SymbolDefinition} {method : SymbolId}
    (first : FirstBeyond snapshot.symbols.length (·.superMethods) snapshot.symbols definition
      method) :
    FirstDangling snapshot ⟨.superMethodOf definition.name, method⟩
  | target {reference : SymbolReference} {target : SymbolId}
    (superMethods : ∀ definition ∈ snapshot.symbols, ∀ method ∈ definition.superMethods,
      method.index < snapshot.symbols.length)
    (first : FirstBeyond snapshot.symbols.length (·.targets) snapshot.references reference target) :
    FirstDangling snapshot ⟨.referenceIn reference.uri, target⟩

/-- A search among the links of some entries finds the first number that is not below the count. -/
theorem firstBeyond_of_find? {α : Type} {count : Nat} {owner : α → LinkOwner}
    {ids : α → List SymbolId} {entries : List α} {link : Link}
    (found : (entries.flatMap fun entry => (ids entry).map (Link.mk (owner entry))).find?
      (fun link => count ≤ link.target.index) = some link) :
    ∃ entry id, link = ⟨owner entry, id⟩ ∧ FirstBeyond count ids entries entry id := by
  rw [List.find?_flatMap] at found
  obtain ⟨before, entry, after, split, atEntry, fine⟩ := List.findSome?_eq_some_iff.mp found
  rw [List.find?_map] at atEntry
  obtain ⟨id, first, rfl⟩ := Option.map_eq_some_iff.mp atEntry
  obtain ⟨beyond, sooner, later, split', fine'⟩ := List.find?_eq_some_iff_append.mp first
  refine ⟨entry, id, rfl, ?_, ⟨before, after, split, ?_⟩, ⟨sooner, later, split', ?_⟩⟩
  · exact of_decide_eq_true beyond
  · intro earlier member other listed
    have none := List.find?_eq_none.mp (fine earlier member) _ (List.mem_map_of_mem listed)
    simpa using none
  · intro other member
    simpa using fine' other member

theorem firstDangling_of_danglingLink? {snapshot : Snapshot} {dangling : DanglingLink}
    (found : snapshot.danglingLink? = some dangling) :
    snapshot.FirstDangling dangling.link ∧ dangling.symbolCount = snapshot.symbols.length := by
  obtain ⟨link, inLinks, rfl⟩ := Option.map_eq_some_iff.mp found
  refine ⟨?_, rfl⟩
  rw [links, List.find?_append] at inLinks
  rcases Option.or_eq_some_iff.mp inLinks with inMethods | ⟨noMethod, inTargets⟩
  · obtain ⟨definition, method, rfl, first⟩ := firstBeyond_of_find? inMethods
    exact .superMethod first
  · obtain ⟨reference, target, rfl, first⟩ := firstBeyond_of_find? inTargets
    exact .target (find?_links_eq_none_iff.mp noMethod) first

/-! ## Tables -/

/-- The last document of the snapshot under a URI. -/
def lastDocument? (snapshot : Snapshot) (uri : Uri) : Option Document :=
  (snapshot.documents.filter (·.uri = uri)).getLast?

/-- All candidates of the snapshot under a URI, entry by entry. -/
def candidatesIn (snapshot : Snapshot) (uri : Uri) : List Candidate :=
  (snapshot.completions.filter (·.uri = uri)).flatMap (·.candidates)

/-- A workspace that is ready and answers with the tables of a snapshot. -/
structure IsMirroredBy (snapshot : Snapshot) (workspace : Workspace) : Prop where
  ready : workspace.ready = true
  symbol? : ∀ id, workspace.symbol? id = snapshot.symbols[id.index]?
  documentText : ∀ uri,
    workspace.engine.documentText uri = (snapshot.lastDocument? uri).map (·.text)
  topLevelFile : ∀ uri,
    workspace.engine.topLevelFile uri = ((snapshot.lastDocument? uri).bind (·.host)).getD uri
  referencesIn : ∀ uri, workspace.referencesIn uri = snapshot.references.filter (·.uri = uri)
  completionsIn : ∀ uri, workspace.completionsIn uri = snapshot.candidatesIn uri
  candidates : ∀ uri offset, workspace.engine.candidates uri offset =
    match snapshot.lastDocument? uri with
    | some document =>
      .ok ((snapshot.candidatesIn uri).filter fun candidate =>
        (Text.identifierBefore document.text offset).isPrefixOf candidate.rawLabel.toList)
    | none => .error (.unknownDocument uri)

section Tables

variable (snapshot : Snapshot)

theorem changes_documents :
    snapshot.changes.filterMap Workspace.Change.document? = snapshot.documents := by
  simp [changes, List.filterMap_flatMap, Function.comp_def, Workspace.Change.document?]

theorem changes_completions :
    snapshot.changes.filterMap Workspace.Change.completion? =
      snapshot.completions.flatMap fun entry => entry.candidates.map (entry.uri, ·) := by
  simp [changes, List.filterMap_flatMap, Function.comp_def, Workspace.Change.completion?]

theorem changes_ready : snapshot.changes.filterMap Workspace.Change.ready? = [] := by
  simp [changes, List.filterMap_flatMap, Function.comp_def, Workspace.Change.ready?]

theorem document?_run_changes (uri : Uri) :
    (Workspace.empty.run snapshot.changes).document? uri = snapshot.lastDocument? uri := by
  have documents : (Workspace.empty.run snapshot.changes).documents.reverse =
      snapshot.documents := by
    rw [Workspace.run_documents, changes_documents]
    rfl
  rw [lastDocument?, ← documents, List.filter_reverse, List.getLast?_reverse, List.head?_filter]
  rfl

theorem completionsIn_run_changes (uri : Uri) :
    (Workspace.empty.run snapshot.changes).completionsIn uri = snapshot.candidatesIn uri := by
  rw [Workspace.completionsIn, Workspace.run_completions, changes_completions]
  change ((snapshot.completions.flatMap fun entry =>
    entry.candidates.map (entry.uri, ·)).filter (·.1 = uri)).map Prod.snd = _
  rw [candidatesIn]
  induction snapshot.completions with
  | nil => rfl
  | cons entry rest ih =>
    rw [List.flatMap_cons, List.filter_append, List.map_append, ih, List.filter_map, List.map_map]
    by_cases here : entry.uri = uri
    · simp [here, Function.comp_def]
    · simp [here, Function.comp_def]

theorem isMirroredBy_run_changes :
    snapshot.IsMirroredBy (Workspace.empty.run snapshot.changes) := by
  have ready : (Workspace.empty.run snapshot.changes).ready = true := by
    rw [Workspace.run_ready, changes_ready]
    rfl
  have document := document?_run_changes snapshot
  have completions := completionsIn_run_changes snapshot
  constructor
  case ready => exact ready
  case symbol? =>
    intro id
    rw [Workspace.symbol?, Workspace.run_symbols, changes_symbols]
    rfl
  case documentText =>
    intro uri
    exact congrArg (Option.map _) (document uri)
  case topLevelFile =>
    intro uri
    rw [← document uri]
    rfl
  case referencesIn =>
    intro uri
    rw [(Workspace.run_indexed Workspace.empty_indexed _).referencesIn, Workspace.run_references,
      changes_references]
    rfl
  case completionsIn => exact completions
  case candidates =>
    intro uri offset
    simp only [Workspace.engine, Workspace.candidates, Workspace.requireIndex_eq_ok ready, document,
      completions]
    cases snapshot.lastDocument? uri with
    | some found => rfl
    | none => rfl

end Tables

/-- A snapshot is accepted exactly if all of its numbers are those of declarations. It then becomes
a workspace that answers with its tables; otherwise it is refused with the first number that is
wrong. -/
theorem toWorkspace_mirrors_or_names_first (snapshot : Snapshot) :
    ((∃ workspace, snapshot.toWorkspace = .ok workspace) ↔ snapshot.Sound) ∧
    match snapshot.toWorkspace with
    | .ok workspace => snapshot.IsMirroredBy workspace
    | .error dangling =>
      snapshot.FirstDangling dangling.link ∧
      dangling.toEngineError.message =
        "Failed to load engine snapshot: " ++ (dangling.link.owner.text ++ " points at symbol " ++
          toString dangling.link.target.index ++ " but only " ++
          toString snapshot.symbols.length ++ " symbols exist") := by
  rw [← danglingLink?_eq_none_iff, toWorkspace]
  cases found : snapshot.danglingLink? with
  | none => exact ⟨by simp, isMirroredBy_run_changes snapshot⟩
  | some dangling =>
    obtain ⟨first, count⟩ := firstDangling_of_danglingLink? found
    refine ⟨by simp, first, ?_⟩
    rw [← count]
    rfl

end Snapshot

end CodeBridge

import CodeBridge.Proofs.Request.Access
import CodeBridge.Proofs.Request.Highlight

/-! # The occurrences that are shown

What a request for highlights shows, read off the tables. Where no highlight region is triggered the
cursor is about some symbols, `Workspace.subjectsAt`: the first declaration whose name is there,
else whatever the first reference there may mean. Each of them has its usages in one document, the
one at hand or the one that it is injected into, and their occurrences are shown once each.

That holds on a linked workspace whose index is ready. The request then fails only for want of a
document.
-/

namespace CodeBridge

/-! ## Kinds of occurrences -/

/-- What a use with an access is shown as. -/
def Access.highlightKind : Access → HighlightKind
  | .read => .read
  | .write => .write

theorem Access.highlightKind_ne_text (access : Access) : access.highlightKind ≠ .text := by
  cases access <;> exact HighlightKind.noConfusion

theorem Access.highlightKind_inj {access other : Access} :
    access.highlightKind = other.highlightKind ↔ access = other := by
  cases access <;> cases other <;> decide

/-- What a reference is shown as: what the detector of its symbol says that it does, or plain text
if there is none. -/
def Usages.referenceKind : Option AccessDetector → Reference → HighlightKind
  | some detector, reference => (detector.referenceAccess reference).highlightKind
  | none, _ => .text

/-- The occurrences of a classified set are its references, each with its kind, and its name. -/
theorem mem_occurrences_classify {file : Uri} {references : List Reference}
    {detector : Option AccessDetector} {declaration : Option (Span × HighlightKind)}
    {occurrence : Occurrence} :
    occurrence ∈ UsageSet.occurrences
        { Usages.classify file references detector with declaration := declaration } ↔
      (∃ reference ∈ references,
        occurrence = ⟨file, reference.range, Usages.referenceKind detector reference⟩) ∨
      ∃ named ∈ declaration, occurrence = ⟨file, named.1, named.2⟩ := by
  cases detector with
  | none => simp [UsageSet.occurrences, Usages.classify, Usages.referenceKind, eq_comm]
  | some detector =>
    simp only [UsageSet.occurrences, Usages.classify, Usages.referenceKind, List.map_nil,
      List.append_nil, List.mem_append, List.mem_map, List.mem_filter, decide_eq_true_eq,
      Option.mem_toList, Option.map_eq_some_iff]
    refine or_congr ⟨?_, ?_⟩ (by simp [eq_comm])
    · rintro (⟨_, ⟨reference, ⟨member, access⟩, rfl⟩, rfl⟩ |
        ⟨_, ⟨reference, ⟨member, access⟩, rfl⟩, rfl⟩)
      · exact ⟨reference, member, by rw [access]; rfl⟩
      · exact ⟨reference, member, by rw [access]; rfl⟩
    · rintro ⟨reference, member, rfl⟩
      cases access : detector.referenceAccess reference with
      | read => exact .inl ⟨_, ⟨reference, ⟨member, access⟩, rfl⟩, rfl⟩
      | write => exact .inr ⟨_, ⟨reference, ⟨member, access⟩, rfl⟩, rfl⟩

/-- Leaving repetitions out loses no occurrence. -/
theorem mem_map_fst_firstEntries {entries : List (Occurrence × LineIndex)}
    {occurrence : Occurrence} :
    occurrence ∈ (firstEntries entries).map Prod.fst ↔ occurrence ∈ entries.map Prod.fst := by
  constructor
  · intro member
    obtain ⟨entry, kept, rfl⟩ := List.mem_map.mp member
    exact List.mem_map_of_mem (mem_of_mem_firstEntries kept)
  · intro member
    obtain ⟨entry, listed, rfl⟩ := List.mem_map.mp member
    by_contra lost
    -- An entry that differs from all that are kept differs from all that there are.
    have differs : ∀ kept ∈ firstEntries entries, entry.1 ≠ kept.1 := by
      intro kept shown same
      exact lost (same ▸ List.mem_map_of_mem shown)
    refine (List.forall_mem_pwFilter ?_ entry _).mp differs entry (List.mem_reverse.mpr listed) rfl
    intro first second third apart
    by_cases same : first.1 = second.1
    · exact .inr (same ▸ apart)
    · exact .inl same

namespace Workspace

variable {workspace : Workspace} {uri file : Uri} {offset : Nat} {symbol : SymbolId}

/-! ## What the cursor is about -/

/-- The symbols that the cursor is about: the first declaration whose name is there, else what the
first reference there may mean. -/
def subjectsAt (workspace : Workspace) (uri : Uri) (offset : Nat) : List SymbolId :=
  match workspace.declarationAt uri offset with
  | some id => [id]
  | none =>
    ((workspace.references.find? fun entry =>
      entry.uri = uri && entry.range.contains offset).map (·.targets)).getD []

theorem Linked.subjectsAt_has (linked : workspace.Linked)
    (about : symbol ∈ workspace.subjectsAt uri offset) : workspace.Has symbol := by
  unfold subjectsAt at about
  split at about
  · next id found =>
    obtain rfl := List.mem_singleton.mp about
    exact declarationAt_has found
  · cases reference : workspace.references.find? fun entry =>
        entry.uri = uri && entry.range.contains offset with
    | none => simp [reference] at about
    | some entry =>
      rw [reference] at about
      exact linked.targets entry (List.mem_of_find?_eq_some reference) symbol about

/-- The strategies, one after the other, find the symbols that the cursor is about. -/
theorem Indexed.exists_targets (indexed : workspace.Indexed) (ready : workspace.ready = true)
    (uri : Uri) (offset : Nat) :
    ∃ targets, Usages.targets workspace.engine uri offset = .ok targets ∧
      targets.filterMap UsageTarget.symbol? = workspace.subjectsAt uri offset := by
  rw [subjectsAt, ← indexed.referenceOver]
  simp only [Usages.targets, Usages.targetStrategies, Usages.firstTargets, Usages.engineTargets,
    Usages.navigationTargets, Usages.polyReferenceTargets, engine, usageTargets, targetElement,
    referenceAt]
  cases declared : workspace.declarationAt uri offset with
  | some id => exact ⟨[.element id ((workspace.symbol? id).map (·.name))], rfl, rfl⟩
  | none =>
    cases reference : workspace.referenceOver uri offset with
    | none => exact ⟨[], rfl, rfl⟩
    | some entry =>
      refine ⟨entry.targets.map Usages.element, ?_, ?_⟩
      · simp only [Option.map_some, resolve, multiResolve, requireIndex_eq_ok ready, ok_bind,
          indexed.entryOf_referenceOver reference]
        -- One target is found by navigation already, any other number by the last strategy.
        obtain ⟨_, _, targets, _⟩ := entry
        rcases targets with _ | ⟨target, _ | ⟨another, rest⟩⟩
        · rfl
        · rfl
        · rfl
      · rw [List.filterMap_map]
        exact List.filterMap_some

/-! ## What is shown -/

/-- What a reference to a symbol is shown as, if it stands at a span. -/
def useKind (workspace : Workspace) (file : Uri) (symbol : SymbolId) (span : Span) :
    HighlightKind :=
  if (workspace.symbol? symbol).any (·.kind.tracksAccess) then
    (workspace.referenceAccess ⟨file, span⟩).highlightKind
  else .text

/-- What the name of a symbol is shown as where it is declared. -/
def nameKind (workspace : Workspace) (symbol : SymbolId) : HighlightKind :=
  if (workspace.symbol? symbol).any fun definition =>
      definition.kind.tracksAccess && definition.declarationWrites then .write
  else .text

theorem referenceKind_accessDetector (workspace : Workspace) (file : Uri) (symbol : SymbolId)
    (span : Span) :
    Usages.referenceKind (workspace.accessDetector symbol) ⟨file, span⟩ =
      workspace.useKind file symbol span := by
  unfold accessDetector useKind
  cases workspace.symbol? symbol with
  | none => rfl
  | some definition =>
    by_cases tracks : definition.kind.tracksAccess = true
    · simp [tracks, Usages.referenceKind]
    · simp [tracks, Usages.referenceKind]

theorem declarationKind_accessDetector (workspace : Workspace) (symbol : SymbolId) :
    Usages.declarationKind (workspace.accessDetector symbol) = workspace.nameKind symbol := by
  unfold accessDetector nameKind
  cases workspace.symbol? symbol with
  | none => rfl
  | some definition =>
    by_cases tracks : definition.kind.tracksAccess = true
    · simp [tracks, Usages.declarationKind]
    · simp [tracks, Usages.declarationKind]

/-- The usages of a symbol in a document are the references to it there and the name that it is
declared with. -/
theorem mem_occurrences_usagesOf {occurrence : Occurrence} :
    occurrence ∈ (workspace.usagesOf file symbol).occurrences ↔
      (∃ entry ∈ workspace.usesIn file symbol,
        occurrence = ⟨file, entry.range, workspace.useKind file symbol entry.range⟩) ∨
      ∃ span ∈ workspace.nameRange file symbol,
        occurrence = ⟨file, span, workspace.nameKind symbol⟩ := by
  rw [usagesOf, mem_occurrences_classify]
  simp [(workspace.usesByStart_perm file symbol).mem_iff, referenceKind_accessDetector,
    declarationKind_accessDetector]

theorem file_usagesOf (workspace : Workspace) (file : Uri) (symbol : SymbolId) :
    (workspace.usagesOf file symbol).file = file := by
  rw [usagesOf]
  cases workspace.accessDetector symbol with
  | none => rfl
  | some detector => rfl

/-- The occurrences of all symbols that the cursor is about. -/
def occurrencesAt (workspace : Workspace) (uri : Uri) (offset : Nat) : List Occurrence :=
  (workspace.subjectsAt uri offset).flatMap fun symbol =>
    (workspace.usagesOf (workspace.topLevelFile uri) symbol).occurrences

/-- What makes the answers to questions about usages complete: the index is ready and agrees with
the table, and every number is that of a declaration. -/
structure Complete (workspace : Workspace) : Prop where
  ready : workspace.ready = true
  indexed : workspace.Indexed
  linked : workspace.Linked

variable {position : Position} {highlights : List Highlight}

/-- Where no region is triggered, no feature is counted, and only the symbols that the cursor is
about decide which usages are looked for. -/
theorem Indexed.find_eq_mapM (indexed : workspace.Indexed) (ready : workspace.ready = true)
    (plain : workspace.regionAt uri offset = none) :
    Usages.find workspace.engine uri offset = ⟨[], (workspace.subjectsAt uri offset).mapM
      (Usages.ofSymbol workspace.engine (workspace.topLevelFile uri))⟩ := by
  obtain ⟨targets, found, subjects⟩ := indexed.exists_targets ready uri offset
  have unmarked : workspace.engine.usageHighlighter uri offset = none := by
    simp only [engine, usageHighlighter, plain, Option.map_none]
  rw [Usages.find, unmarked]
  simp only [Usages.ofTargets, found, ok_bind, subjects]
  rfl

/-- Where no region is triggered, the usages of each symbol that the cursor is about are found. -/
theorem Complete.find_eq (complete : workspace.Complete)
    (plain : workspace.regionAt uri offset = none) :
    (Usages.find workspace.engine uri offset).answer =
      .ok ((workspace.subjectsAt uri offset).map
        (workspace.usagesOf (workspace.topLevelFile uri))) := by
  have each : ∀ symbol ∈ workspace.subjectsAt uri offset,
      Usages.ofSymbol workspace.engine (workspace.topLevelFile uri) symbol =
        .ok (workspace.usagesOf (workspace.topLevelFile uri) symbol) := by
    intro symbol about
    obtain ⟨definition, known⟩ := (has_iff_symbol? symbol).mp (complete.linked.subjectsAt_has about)
    exact complete.indexed.ofSymbol_eq _ complete.ready known
  rw [complete.indexed.find_eq_mapM complete.ready plain]
  exact mapM_eq_ok_map each

theorem isSome_documentText (workspace : Workspace) (file : Uri) :
    (workspace.engine.documentText file).isSome = (workspace.document? file).isSome :=
  Option.isSome_map ..

/-- A request fails only if the document to show the usages in is not there. -/
theorem Complete.documentHighlight_eq_ok_iff (complete : workspace.Complete)
    (located : offsetIn workspace.engine uri position = .ok offset)
    (plain : workspace.regionAt uri offset = none) :
    (documentHighlight workspace.engine uri position).answer = .ok highlights ↔
      (workspace.subjectsAt uri offset = [] ∨
        (workspace.document? (workspace.topLevelFile uri)).isSome) ∧
      highlights = (firstEntries (workspace.engine.entries ((workspace.subjectsAt uri offset).map
        (workspace.usagesOf (workspace.topLevelFile uri))))).reverse.map
          fun entry => entry.1.shownIn entry.2 := by
  have found := complete.find_eq plain
  have here : (workspace.document? uri).isSome := by
    obtain ⟨index, opened, -⟩ := bind_eq_ok_iff.mp located
    rw [← isSome_documentText]
    exact (openDocument_eq_ok_iff.mp opened).1
  rw [CodeBridge.documentHighlight_eq_ok_iff]
  constructor
  · rintro ⟨actual, sets, located', found', known, rfl⟩
    obtain rfl := Except.ok.inj (located.symm.trans located')
    obtain rfl := Except.ok.inj (found.symm.trans found')
    refine ⟨?_, rfl⟩
    cases subjects : workspace.subjectsAt uri offset with
    | nil => exact .inl rfl
    | cons symbol rest =>
      have held := known _ (List.mem_map_of_mem (subjects ▸ List.mem_cons_self))
      rw [file_usagesOf, isSome_documentText] at held
      rcases held with same | held
      · rw [same]
        exact .inr here
      · exact .inr held
  · rintro ⟨held, rfl⟩
    refine ⟨offset, _, located, found, ?_, rfl⟩
    intro usages member
    obtain ⟨symbol, about, rfl⟩ := List.mem_map.mp member
    rw [file_usagesOf, isSome_documentText]
    exact .inr (held.resolve_left (List.ne_nil_of_mem about))

/-- A request shows the occurrences of the symbols that the cursor is about, each of them once. -/
theorem Complete.exists_occurrences (complete : workspace.Complete)
    (located : offsetIn workspace.engine uri position = .ok offset)
    (plain : workspace.regionAt uri offset = none)
    (success : (documentHighlight workspace.engine uri position).answer = .ok highlights) :
    ∃ occurrences : List Occurrence, occurrences.Nodup ∧
      (∀ occurrence, occurrence ∈ occurrences ↔ occurrence ∈ workspace.occurrencesAt uri offset) ∧
      highlights = occurrences.map
        (·.shownIn (workspace.engine.lineIndex (workspace.topLevelFile uri))) := by
  obtain ⟨-, rfl⟩ := (complete.documentHighlight_eq_ok_iff located plain).mp success
  let index := workspace.engine.lineIndex (workspace.topLevelFile uri)
  -- All entries are of one document, so the line index that goes with them is always the same.
  have entries : workspace.engine.entries ((workspace.subjectsAt uri offset).map
      (workspace.usagesOf (workspace.topLevelFile uri))) =
      (workspace.occurrencesAt uri offset).map (·, index) := by
    simp only [Engine.entries, List.flatMap_map, file_usagesOf, occurrencesAt, List.map_flatMap,
      index]
  rw [entries]
  let kept := firstEntries ((workspace.occurrencesAt uri offset).map (·, index))
  refine ⟨kept.reverse.map Prod.fst, ?_, ?_, ?_⟩
  · rw [List.map_reverse]
    exact List.nodup_reverse.mpr (firstEntries_distinct _)
  · intro occurrence
    rw [List.map_reverse, List.mem_reverse, mem_map_fst_firstEntries, List.map_map]
    simp [Function.comp_def]
  · rw [List.map_map]
    refine List.map_congr_left fun entry member => ?_
    obtain ⟨occurrence, -, rfl⟩ :=
      List.mem_map.mp (mem_of_mem_firstEntries (List.mem_reverse.mp member))
    rfl

end Workspace

end CodeBridge

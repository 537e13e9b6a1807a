import CodeBridge.Engine.Workspace
import CodeBridge.Proofs.Answer
import CodeBridge.Proofs.Text.PositionOrder
import CodeBridge.Request.Highlight
import CodeBridge.Snapshot.Basic
import Mathlib.Data.List.Nodup
import Mathlib.Data.List.Pairwise

/-! # Distinct highlights

A request for highlights collects occurrences and shows each of them once, in the positions of its
document. Occurrences are told apart by their spans, while highlights are told apart by positions,
and a span that reaches past the end of its document is cut there. So two occurrences can be shown
as the same highlight, and they are exactly if their spans agree when they are cut.

In a workspace whose spans all lie within their documents, no highlight is shown twice.
-/

namespace CodeBridge

/-! ## Collected occurrences -/

/-- An occurrence in the positions of a document. -/
def Occurrence.shownIn (occurrence : Occurrence) (index : LineIndex) : Highlight :=
  ⟨index.range occurrence.span, occurrence.kind⟩

/-- The entries whose occurrence no earlier entry has, newest first. -/
def firstEntries (entries : List (Occurrence × LineIndex)) : List (Occurrence × LineIndex) :=
  entries.reverse.pwFilter fun later earlier => later.1 ≠ earlier.1

theorem firstEntries_concat (entries : List (Occurrence × LineIndex)) (occurrence : Occurrence)
    (index : LineIndex) :
    firstEntries (entries ++ [(occurrence, index)]) =
      if occurrence ∈ (firstEntries entries).map Prod.fst then firstEntries entries
      else (occurrence, index) :: firstEntries entries := by
  rw [firstEntries, List.reverse_append, List.reverse_singleton, List.singleton_append]
  split
  · next there =>
    obtain ⟨earlier, member, same⟩ := List.mem_map.mp there
    exact List.pwFilter_cons_of_neg fun fresh => fresh earlier member same.symm
  · next fresh =>
    refine List.pwFilter_cons_of_pos fun earlier member same => fresh ?_
    exact List.mem_map.mpr ⟨earlier, member, same.symm⟩

theorem firstEntries_distinct (entries : List (Occurrence × LineIndex)) :
    ((firstEntries entries).map Prod.fst).Nodup :=
  List.pairwise_map.mpr (List.pairwise_pwFilter _)

theorem mem_of_mem_firstEntries {entries : List (Occurrence × LineIndex)}
    {entry : Occurrence × LineIndex} (member : entry ∈ firstEntries entries) : entry ∈ entries :=
  List.mem_reverse.mp (List.pwFilter_subset _ member)

namespace HighlightList

/-- The list shows the first of all entries with the same occurrence, and has seen just those. -/
structure Collects (shown : HighlightList) (entries : List (Occurrence × LineIndex)) : Prop where
  seen : shown.seen = (firstEntries entries).map Prod.fst
  newestFirst : shown.newestFirst = (firstEntries entries).map fun entry => entry.1.shownIn entry.2

variable {shown : HighlightList} {entries : List (Occurrence × LineIndex)}

theorem empty_collects : empty.Collects [] where
  seen := rfl
  newestFirst := rfl

theorem Collects.push (collects : shown.Collects entries) (index : LineIndex)
    (occurrence : Occurrence) :
    (shown.push index occurrence).Collects (entries ++ [(occurrence, index)]) := by
  unfold HighlightList.push
  have step := firstEntries_concat entries occurrence index
  rw [← collects.seen] at step
  split
  · next there =>
    rw [if_pos (List.contains_iff_mem.mp there)] at step
    exact ⟨step ▸ collects.seen, step ▸ collects.newestFirst⟩
  · next fresh =>
    rw [if_neg fun there => fresh (List.contains_iff_mem.mpr there)] at step
    constructor
    · rw [step, List.map_cons, collects.seen]
    · rw [step, List.map_cons, collects.newestFirst]
      rfl

theorem Collects.add (collects : shown.Collects entries) (usages : UsageSet) (index : LineIndex) :
    (shown.add usages index).Collects (entries ++ usages.occurrences.map (·, index)) := by
  unfold HighlightList.add
  induction usages.occurrences generalizing shown entries with
  | nil => simpa using collects
  | cons occurrence rest ih =>
    have next := ih (collects.push index occurrence)
    rwa [List.append_assoc] at next

end HighlightList

/-! ## Collected sets of usages -/

/-- The line index of a document; that of a document that is not there is the one of no text. -/
def Engine.lineIndex (engine : Engine) (file : Uri) : LineIndex :=
  .ofText ((engine.documentText file).getD "")

theorem Engine.lineIndex_wellFormed (engine : Engine) (file : Uri) :
    (engine.lineIndex file).WellFormed :=
  LineIndex.ofText_wellFormed _

/-- A document opens if it is there, and then it has its line index. -/
theorem openDocument_eq_ok_iff {engine : Engine} {file : Uri} {index : LineIndex} :
    openDocument engine file = .ok index ↔
      (engine.documentText file).isSome ∧ index = engine.lineIndex file := by
  unfold openDocument Engine.lineIndex
  cases engine.documentText file with
  | none => simp
  | some text => simp [eq_comm]

theorem liftEngine_eq_ok_iff {α : Type} {answer : Except EngineError α} {value : α} :
    liftEngine answer = .ok value ↔ answer = .ok value := by
  cases answer with
  | ok actual => simp [liftEngine, Except.mapError]
  | error error => simp [liftEngine, Except.mapError]

/-- The occurrences of some usage sets, each with the line index of its set's document. -/
def Engine.entries (engine : Engine) (sets : List UsageSet) : List (Occurrence × LineIndex) :=
  sets.flatMap fun usages => usages.occurrences.map (·, engine.lineIndex usages.file)

theorem addUsages_collects {engine : Engine} {uri : Uri} {sets : List UsageSet}
    {shown result : HighlightList} {entries : List (Occurrence × LineIndex)}
    (collects : shown.Collects entries)
    (success : addUsages engine uri (engine.lineIndex uri) shown sets = .ok result) :
    result.Collects (entries ++ engine.entries sets) := by
  induction sets generalizing shown entries with
  | nil =>
    cases success
    simpa [Engine.entries] using collects
  | cons usages rest ih =>
    -- Whether the set is of the document at hand or of another, its index is that of its document.
    have continues : addUsages engine uri (engine.lineIndex uri)
        (shown.add usages (engine.lineIndex usages.file)) rest = .ok result := by
      rw [addUsages] at success
      split at success
      · next here =>
        rw [here]
        exact success
      · obtain ⟨index, opened, success⟩ := bind_eq_ok_iff.mp success
        rwa [(openDocument_eq_ok_iff.mp opened).2] at success
    have next := ih (collects.add usages _) continues
    rwa [List.append_assoc] at next

/-- Usage sets can be added if their documents, other than the one at hand, are there. -/
theorem addUsages_isOk_iff {engine : Engine} {uri : Uri} {index : LineIndex}
    {shown : HighlightList} {sets : List UsageSet} :
    (∃ result, addUsages engine uri index shown sets = .ok result) ↔
      ∀ usages ∈ sets, usages.file = uri ∨ (engine.documentText usages.file).isSome := by
  induction sets generalizing shown with
  | nil => simp [addUsages]
  | cons usages rest ih =>
    rw [addUsages, List.forall_mem_cons]
    split
    · next here => exact ih.trans (by simp [here])
    · next there =>
      cases opened : openDocument engine usages.file with
      | ok index =>
        obtain ⟨known, -⟩ := openDocument_eq_ok_iff.mp opened
        exact ih.trans (by simp [known])
      | error error =>
        have unknown : ¬(engine.documentText usages.file).isSome := by
          intro known
          cases opened.symm.trans (openDocument_eq_ok_iff.mpr ⟨known, rfl⟩)
        simp [there, unknown]

/-- A request succeeds if its position has an offset, the usages there are found and their documents
are there. It shows the first of each occurrence that its usage sets have. -/
theorem documentHighlight_eq_ok_iff {engine : Engine} {uri : Uri} {position : Position}
    {highlights : List Highlight} :
    (documentHighlight engine uri position).answer = .ok highlights ↔
      ∃ offset sets, offsetIn engine uri position = .ok offset ∧
        (Usages.find engine uri offset).answer = .ok sets ∧
        (∀ usages ∈ sets, usages.file = uri ∨ (engine.documentText usages.file).isSome) ∧
        highlights =
          (firstEntries (engine.entries sets)).reverse.map fun entry => entry.1.shownIn entry.2 := by
  have finish : ∀ {sets : List UsageSet} {shown : HighlightList},
      addUsages engine uri (engine.lineIndex uri) .empty sets = .ok shown →
      shown.finish =
        (firstEntries (engine.entries sets)).reverse.map fun entry => entry.1.shownIn entry.2 := by
    intro sets shown collected
    have collects := addUsages_collects HighlightList.empty_collects collected
    rw [HighlightList.finish, collects.newestFirst, List.map_reverse]
    rfl
  constructor
  · intro success
    unfold documentHighlight at success
    split at success
    · cases success
    · next offset located =>
      obtain ⟨index, opened, success⟩ := bind_eq_ok_iff.mp success
      obtain ⟨sets, found, success⟩ := bind_eq_ok_iff.mp success
      obtain ⟨shown, collected, success⟩ := bind_eq_ok_iff.mp success
      rw [(openDocument_eq_ok_iff.mp opened).2] at collected
      refine ⟨offset, sets, located, liftEngine_eq_ok_iff.mp found,
        addUsages_isOk_iff.mp ⟨shown, collected⟩, ?_⟩
      rw [← Except.ok.inj success]
      exact finish collected
  · rintro ⟨offset, sets, located, found, known, rfl⟩
    obtain ⟨shown, collected⟩ : ∃ shown,
        addUsages engine uri (engine.lineIndex uri) .empty sets = .ok shown :=
      addUsages_isOk_iff.mpr known
    obtain ⟨index, opened, -⟩ := bind_eq_ok_iff.mp located
    rw [(openDocument_eq_ok_iff.mp opened).2] at opened
    rw [documentHighlight, located]
    simp only [opened, liftEngine_eq_ok_iff.mpr found, collected, ok_bind, ← finish collected]
    rfl

/-! ## Spans of a workspace -/

namespace UsageSet

/-- The spans of a set, whatever they do. -/
def spans (usages : UsageSet) : List Span :=
  usages.reads ++ usages.writes ++ usages.text ++ (usages.declaration.map Prod.fst).toList

theorem of_mem_occurrences {usages : UsageSet} {occurrence : Occurrence}
    (member : occurrence ∈ usages.occurrences) :
    occurrence.file = usages.file ∧ occurrence.span ∈ usages.spans := by
  simp only [occurrences, List.mem_append, List.mem_map, Option.mem_toList,
    Option.map_eq_some_iff] at member
  simp only [spans, List.mem_append, Option.mem_toList, Option.map_eq_some_iff]
  rcases member with ((⟨span, listed, rfl⟩ | ⟨span, listed, rfl⟩) | ⟨span, listed, rfl⟩) |
    ⟨named, listed, rfl⟩
  · exact ⟨rfl, .inl (.inl (.inl listed))⟩
  · exact ⟨rfl, .inl (.inl (.inr listed))⟩
  · exact ⟨rfl, .inl (.inr listed)⟩
  · exact ⟨rfl, .inr ⟨named, listed, rfl⟩⟩

end UsageSet

theorem spans_classify_subset (file : Uri) (references : List Reference)
    (detector : Option AccessDetector) :
    (Usages.classify file references detector).spans ⊆ references.map (·.range) := by
  intro span member
  cases detector with
  | none => simpa [Usages.classify, UsageSet.spans] using member
  | some detector =>
    simp only [Usages.classify, UsageSet.spans, List.append_nil, Option.map_none,
      Option.toList_none, List.mem_append] at member
    rcases member with read | write
    · exact List.map_subset _ List.filter_sublist.subset read
    · exact List.map_subset _ List.filter_sublist.subset write

namespace Workspace

/-- Every span of a document that its references, declarations and highlight regions give. -/
def spansIn (workspace : Workspace) (file : Uri) : List Span :=
  (workspace.referencesIn file).map (·.range) ++
    (workspace.symbols.filter (·.location.uri = file)).filterMap (·.nameRange) ++
    (workspace.highlighters.filter (·.uri = file)).flatMap fun region =>
      region.reads ++ region.writes

variable {workspace : Workspace}

/-- A usage set of one document, with spans that stand in it. -/
def Places (workspace : Workspace) (file : Uri) (usages : UsageSet) : Prop :=
  usages.file = file ∧ usages.spans ⊆ workspace.spansIn file

theorem nameRange_mem_spansIn {file : Uri} {symbol : SymbolId} {span : Span}
    (named : workspace.nameRange file symbol = some span) : span ∈ workspace.spansIn file := by
  unfold nameRange at named
  split at named
  · next definition known =>
    split at named
    · next here =>
      refine List.mem_append_left _ (List.mem_append_right _ ?_)
      refine List.mem_filterMap.mpr ⟨definition, List.mem_filter.mpr ⟨?_, ?_⟩, named⟩
      · exact List.mem_of_getElem? known
      · exact decide_eq_true here
    · cases named
  · cases named

theorem ranges_referencesTo_subset {symbol : SymbolId} {file : Uri} {found : List Reference}
    (success : workspace.referencesTo symbol file = .ok found) :
    found.map (·.range) ⊆ workspace.spansIn file := by
  obtain ⟨_, -, success⟩ := bind_eq_ok_iff.mp success
  obtain ⟨_, -, success⟩ := bind_eq_ok_iff.mp success
  cases success
  intro span member
  obtain ⟨reference, sorted, rfl⟩ := List.mem_map.mp member
  obtain ⟨entry, kept, rfl⟩ := List.mem_map.mp (List.mem_mergeSort.mp sorted)
  refine List.mem_append_left _ (List.mem_append_left _ ?_)
  exact List.mem_map_of_mem (List.mem_filter.mp kept).1

theorem ofSymbol_places {file : Uri} {symbol : SymbolId} {usages : UsageSet}
    (success : Usages.ofSymbol workspace.engine file symbol = .ok usages) :
    workspace.Places file usages := by
  obtain ⟨references, found, success⟩ := bind_eq_ok_iff.mp success
  cases success
  have inFile := ranges_referencesTo_subset found
  have kept := spans_classify_subset file references (workspace.accessDetector symbol)
  constructor
  · change (Usages.classify file references _).file = file
    cases workspace.engine.accessDetector symbol <;> rfl
  · intro span member
    rcases List.mem_append.mp member with used | named
    · exact inFile (kept (List.mem_append_left _ used))
    · obtain ⟨_, declared, rfl⟩ := Option.map_eq_some_iff.mp (Option.mem_toList.mp named)
      obtain ⟨range, inName, rfl⟩ := Option.map_eq_some_iff.mp declared
      exact nameRange_mem_spansIn inName

/-- All sets of usages at an offset are of one document, the one at hand or the one that it is
injected into, and their spans stand in it. -/
theorem exists_places_of_find {uri : Uri} {offset : Nat} {sets : List UsageSet}
    (success : (Usages.find workspace.engine uri offset).answer = .ok sets) :
    ∃ file, (file = uri ∨ file = workspace.topLevelFile uri) ∧
      ∀ usages ∈ sets, workspace.Places file usages := by
  unfold Usages.find at success
  split at success
  · next highlighter found =>
    obtain ⟨region, first, rfl⟩ := Option.map_eq_some_iff.mp found
    cases success
    refine ⟨uri, .inl rfl, List.forall_mem_singleton.mpr ⟨rfl, ?_⟩⟩
    intro span member
    have here : region.uri = uri := by
      have triggers := List.find?_some first
      simp only [Bool.and_eq_true, decide_eq_true_eq] at triggers
      exact triggers.1
    refine List.mem_append_right _ (List.mem_flatMap.mpr ⟨region, ?_, ?_⟩)
    · exact List.mem_filter.mpr ⟨List.mem_of_find?_eq_some first, decide_eq_true here⟩
    · simpa [UsageSet.spans] using member
  · refine ⟨workspace.topLevelFile uri, .inr rfl, ?_⟩
    obtain ⟨targets, -, success⟩ := bind_eq_ok_iff.mp success
    intro usages member
    obtain ⟨symbol, -, ofSymbol⟩ := exists_of_mapM_eq_ok success member
    exact ofSymbol_places ofSymbol

end Workspace

/-- A request that succeeds shows distinct occurrences of one document. -/
theorem exists_distinct_occurrences {workspace : Workspace} {uri : Uri} {position : Position}
    {highlights : List Highlight}
    (success : (documentHighlight workspace.engine uri position).answer = .ok highlights) :
    ∃ (file : Uri) (occurrences : List Occurrence),
      (file = uri ∨ file = workspace.topLevelFile uri) ∧
      highlights = occurrences.map (·.shownIn (workspace.engine.lineIndex file)) ∧
      occurrences.Nodup ∧
      ∀ occurrence ∈ occurrences,
        occurrence.file = file ∧ occurrence.span ∈ workspace.spansIn file := by
  obtain ⟨offset, sets, -, found, -, rfl⟩ := documentHighlight_eq_ok_iff.mp success
  obtain ⟨file, here, places⟩ := Workspace.exists_places_of_find found
  have entry_places : ∀ entry ∈ workspace.engine.entries sets,
      entry.2 = workspace.engine.lineIndex file ∧ entry.1.file = file ∧
        entry.1.span ∈ workspace.spansIn file := by
    intro entry member
    obtain ⟨usages, inSets, listed⟩ := List.mem_flatMap.mp member
    obtain ⟨occurrence, occurs, rfl⟩ := List.mem_map.mp listed
    obtain ⟨rfl, inFile⟩ := places usages inSets
    obtain ⟨sameFile, inSet⟩ := UsageSet.of_mem_occurrences occurs
    exact ⟨rfl, sameFile, inFile inSet⟩
  refine ⟨file, (firstEntries (workspace.engine.entries sets)).reverse.map Prod.fst, here,
    ?_, ?_, ?_⟩
  · rw [List.map_map]
    refine List.map_congr_left fun entry kept => ?_
    rw [(entry_places entry (mem_of_mem_firstEntries (List.mem_reverse.mp kept))).1]
    rfl
  · rw [List.map_reverse]
    exact List.pairwise_reverse.mpr ((firstEntries_distinct _).imp Ne.symm)
  · intro occurrence member
    obtain ⟨entry, kept, rfl⟩ := List.mem_map.mp member
    exact (entry_places entry (mem_of_mem_firstEntries (List.mem_reverse.mp kept))).2

/-! ## Positions of spans -/

/-- A span cut to a text of the given length. -/
def Span.cut (span : Span) (length : Nat) : Span :=
  ⟨min span.start length, min span.stop length⟩

/-- The span lies within a text of the given length; it may be inverted. -/
def Span.Within (span : Span) (length : Nat) : Prop :=
  span.start ≤ length ∧ span.stop ≤ length

instance (span : Span) (length : Nat) : Decidable (span.Within length) :=
  inferInstanceAs (Decidable (_ ∧ _))

theorem Span.Within.cut {span : Span} {length : Nat} (within : span.Within length) :
    span.cut length = span := by
  rw [Span.cut, Nat.min_eq_left within.1, Nat.min_eq_left within.2]

namespace LineIndex

variable {index : LineIndex}

/-- Two offsets are shown at one position exactly if they agree when they are cut to the text. -/
theorem position_eq_position_iff (valid : index.WellFormed) (fits : index.length < UInt32.size)
    (first second : Nat) :
    index.position first = index.position second ↔
      min first index.length = min second index.length := by
  constructor
  · intro same
    have back := offset_position valid fits first
    rw [same, offset_position valid fits second] at back
    exact (Except.ok.inj back).symm
  · intro same
    rw [← position_min index first, same, position_min]

theorem range_eq_range_iff (valid : index.WellFormed) (fits : index.length < UInt32.size)
    (first second : Span) :
    index.range first = index.range second ↔ first.cut index.length = second.cut index.length := by
  simp only [range, Span.cut, PositionRange.mk.injEq, Span.mk.injEq,
    position_eq_position_iff valid fits]

end LineIndex

/-! ## The highlights of a request -/

/-- What of an occurrence can still be told apart when it is shown: its kind, and its span cut to
the document. -/
def Occurrence.trace (length : Nat) (occurrence : Occurrence) : Span × HighlightKind :=
  (occurrence.span.cut length, occurrence.kind)

theorem nodup_shownIn_iff {index : LineIndex} (valid : index.WellFormed)
    (fits : index.length < UInt32.size) (occurrences : List Occurrence) :
    (occurrences.map (·.shownIn index)).Nodup ↔
      (occurrences.map (·.trace index.length)).Nodup := by
  have same (first second : Occurrence) : first.shownIn index = second.shownIn index ↔
      first.trace index.length = second.trace index.length := by
    simp only [Occurrence.shownIn, Occurrence.trace, Highlight.mk.injEq, Prod.mk.injEq,
      LineIndex.range_eq_range_iff valid fits]
  rw [List.Nodup, List.pairwise_map, List.Nodup, List.pairwise_map]
  simp only [ne_eq, same]

/-- Spans within the document are told apart when they are shown. -/
theorem nodup_trace_of_within {length : Nat} (file : Uri) {occurrences : List Occurrence}
    (distinct : occurrences.Nodup)
    (within : ∀ occurrence ∈ occurrences,
      occurrence.file = file ∧ occurrence.span.Within length) :
    (occurrences.map (·.trace length)).Nodup := by
  refine List.Nodup.map_on ?_ distinct
  rintro ⟨_, first, kind⟩ firstIn ⟨_, second, kind'⟩ secondIn same
  obtain ⟨rfl, firstWithin⟩ := within _ firstIn
  obtain ⟨sameFile, secondWithin⟩ := within _ secondIn
  simp only [Occurrence.trace, firstWithin.cut, secondWithin.cut, Prod.mk.injEq] at same
  rw [Occurrence.mk.injEq]
  exact ⟨sameFile.symm, same⟩

/-- A request that succeeds shows distinct occurrences of one document. Two of them are the same
highlight exactly if their kinds agree and their spans agree when cut to the document, so in a
document that holds all of its spans no highlight is repeated. Positions are words, hence the bound
on the length of the document. -/
theorem documentHighlight_repeats_iff_cut (workspace : Workspace) (uri : Uri) (position : Position)
    {highlights : List Highlight}
    (success : (documentHighlight workspace.engine uri position).answer = .ok highlights) :
    ∃ (file : Uri) (occurrences : List Occurrence),
      (file = uri ∨ file = workspace.topLevelFile uri) ∧
      highlights = occurrences.map (·.shownIn (workspace.engine.lineIndex file)) ∧
      occurrences.Nodup ∧
      (∀ occurrence ∈ occurrences,
        occurrence.file = file ∧ occurrence.span ∈ workspace.spansIn file) ∧
      ((workspace.engine.lineIndex file).length < UInt32.size →
        (highlights.Nodup ↔
          (occurrences.map (·.trace (workspace.engine.lineIndex file).length)).Nodup) ∧
        ((∀ span ∈ workspace.spansIn file, span.Within (workspace.engine.lineIndex file).length) →
          highlights.Nodup)) := by
  obtain ⟨file, occurrences, here, rfl, distinct, inFile⟩ := exists_distinct_occurrences success
  refine ⟨file, occurrences, here, rfl, distinct, inFile, fun fits => ?_⟩
  have repeats := nodup_shownIn_iff (workspace.engine.lineIndex_wellFormed file) fits occurrences
  refine ⟨repeats, fun within => repeats.mpr ?_⟩
  refine nodup_trace_of_within file distinct fun occurrence member => ?_
  obtain ⟨ofFile, inSpans⟩ := inFile occurrence member
  exact ⟨ofFile, within _ inSpans⟩

/-- A document of four units, with a region at its front that is written there and read twice at
the end of the document. The two reads end where they are told to. -/
def Snapshot.twoReads (firstEnd secondEnd : Nat) : Snapshot where
  documents := [{ uri := ⟨"file:///a"⟩, text := "x; x" }]
  highlighters :=
    [{ uri := ⟨"file:///a"⟩, trigger := ⟨0, 1⟩, reads := [⟨3, firstEnd⟩, ⟨3, secondEnd⟩]
       writes := [⟨0, 1⟩] }]

theorem documentHighlight_repeats_iff_cut_within :
    let workspace := Workspace.empty.run (Snapshot.twoReads 4 3).changes
    ∃ highlights,
      (documentHighlight workspace.engine ⟨"file:///a"⟩ ⟨0, 0⟩).answer = .ok highlights ∧
      highlights.length = 3 ∧ highlights.Nodup := by
  intro workspace
  have success : (documentHighlight workspace.engine ⟨"file:///a"⟩ ⟨0, 0⟩).answer =
      .ok [⟨⟨⟨0, 3⟩, ⟨0, 4⟩⟩, .read⟩, ⟨⟨⟨0, 3⟩, ⟨0, 3⟩⟩, .read⟩, ⟨⟨⟨0, 0⟩, ⟨0, 1⟩⟩, .write⟩] := rfl
  obtain ⟨file, occurrences, here, -, -, -, exactly⟩ :=
    documentHighlight_repeats_iff_cut workspace ⟨"file:///a"⟩ ⟨0, 0⟩ success
  obtain rfl : file = ⟨"file:///a"⟩ := by
    rcases here with rfl | rfl
    · rfl
    · rfl
  have within : ∀ span ∈ workspace.spansIn ⟨"file:///a"⟩,
      span.Within (workspace.engine.lineIndex ⟨"file:///a"⟩).length := by decide
  exact ⟨_, success, rfl, (exactly (by decide)).2 within⟩

/-- Two reads that end past their document are shown as the same highlight, twice. -/
theorem documentHighlight_repeats_overrun :
    ∃ workspace highlights, (Snapshot.twoReads 5 6).toWorkspace = .ok workspace ∧
      (documentHighlight workspace.engine ⟨"file:///a"⟩ ⟨0, 0⟩).answer = .ok highlights ∧
      ¬highlights.Nodup := by
  refine ⟨Workspace.empty.run (Snapshot.twoReads 5 6).changes,
    [⟨⟨⟨0, 3⟩, ⟨0, 4⟩⟩, .read⟩, ⟨⟨⟨0, 3⟩, ⟨0, 4⟩⟩, .read⟩, ⟨⟨⟨0, 0⟩, ⟨0, 1⟩⟩, .write⟩],
    rfl, rfl, ?_⟩
  decide

end CodeBridge

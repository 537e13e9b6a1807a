import CodeBridge.Proofs.Request.Occurrences
import Mathlib

/-! # Highlights after a new reference

A new reference goes to the end of the table, and every look-up takes the first entry that fits. So
whatever an earlier entry decided stays decided: which symbols the cursor is about, and what each of
their references does. All that a new reference can add to a list of highlights is its own place;
it never takes a highlight away.
-/

namespace CodeBridge

namespace Workspace

variable {workspace : Workspace} {reference : SymbolReference} {uri file : Uri} {offset : Nat}
  {symbol : SymbolId}

/-! ## The tables -/

theorem Linked.addReference (linked : workspace.Linked)
    (known : ∀ target ∈ reference.targets, workspace.Has target) :
    (workspace.addReference reference).Linked where
  superMethods := linked.superMethods
  targets entry member := by
    rcases List.mem_append.mp member with old | new
    · exact linked.targets entry old
    · obtain rfl := List.mem_singleton.mp new
      exact known

theorem Complete.addReference (complete : workspace.Complete)
    (known : ∀ target ∈ reference.targets, workspace.Has target) :
    (workspace.addReference reference).Complete where
  ready := complete.ready
  indexed := addReference_indexed complete.indexed reference
  linked := complete.linked.addReference known

theorem mem_usesIn_addReference {entry : SymbolReference} :
    entry ∈ (workspace.addReference reference).usesIn file symbol ↔
      entry ∈ workspace.usesIn file symbol ∨
        entry = reference ∧ reference.uri = file ∧ symbol ∈ reference.targets := by
  rw [mem_usesIn, mem_usesIn, addReference, List.mem_append, List.mem_singleton, or_and_right]
  refine or_congr_right (and_congr_right ?_)
  rintro rfl
  rfl

/-! ## Look-ups that were decided -/

/-- A cursor that is about something stays about it. -/
theorem subjectsAt_addReference (about : workspace.subjectsAt uri offset ≠ []) :
    (workspace.addReference reference).subjectsAt uri offset = workspace.subjectsAt uri offset := by
  have declarations : (workspace.addReference reference).declarationAt uri offset =
      workspace.declarationAt uri offset := rfl
  unfold subjectsAt at about ⊢
  rw [declarations]
  cases declared : workspace.declarationAt uri offset with
  | some id => rfl
  | none =>
    rw [declared] at about
    rw [addReference, List.find?_append]
    cases first : workspace.references.find? fun entry =>
        entry.uri = uri && entry.range.contains offset with
    | none => simp [first] at about
    | some entry => rfl

/-- What is first at a span stays first there. -/
theorem firstAccess_addReference {span : Span} {access : Access}
    (first : workspace.firstAccess file span = some access) :
    (workspace.addReference reference).firstAccess file span = some access := by
  obtain ⟨entry, found, rfl⟩ := Option.map_eq_some_iff.mp first
  rw [firstAccess, addReference, List.find?_append, found]
  rfl

/-- What a reference is shown as does not change. -/
theorem Indexed.useKind_addReference (indexed : workspace.Indexed) {entry : SymbolReference}
    (member : entry ∈ workspace.usesIn file symbol) :
    (workspace.addReference reference).useKind file symbol entry.range =
      workspace.useKind file symbol entry.range := by
  have first := (indexed.referenceAccess_eq_iff member _).mp rfl
  have kept : entry ∈ (workspace.addReference reference).usesIn file symbol :=
    mem_usesIn_addReference.mpr (.inl member)
  have access : (workspace.addReference reference).referenceAccess ⟨file, entry.range⟩ =
      workspace.referenceAccess ⟨file, entry.range⟩ :=
    ((addReference_indexed indexed reference).referenceAccess_eq_iff kept _).mpr
      (firstAccess_addReference first)
  unfold useKind
  rw [access]
  rfl

/-! ## Occurrences -/

variable {occurrence : Occurrence}

theorem Indexed.occurrences_addReference (indexed : workspace.Indexed)
    (shown : occurrence ∈ (workspace.usagesOf file symbol).occurrences) :
    occurrence ∈ ((workspace.addReference reference).usagesOf file symbol).occurrences := by
  rw [mem_occurrences_usagesOf] at shown ⊢
  rcases shown with ⟨entry, member, rfl⟩ | ⟨span, named, rfl⟩
  · refine .inl ⟨entry, mem_usesIn_addReference.mpr (.inl member), ?_⟩
    rw [indexed.useKind_addReference member]
  · exact .inr ⟨span, named, rfl⟩

/-- An occurrence that was not there before is that of the new reference. -/
theorem Indexed.of_occurrences_addReference (indexed : workspace.Indexed)
    (shown : occurrence ∈ ((workspace.addReference reference).usagesOf file symbol).occurrences) :
    occurrence ∈ (workspace.usagesOf file symbol).occurrences ∨
      reference.uri = file ∧ occurrence.span = reference.range := by
  rw [mem_occurrences_usagesOf] at shown ⊢
  rcases shown with ⟨entry, member, rfl⟩ | ⟨span, named, rfl⟩
  · rcases mem_usesIn_addReference.mp member with old | ⟨rfl, here, -⟩
    · rw [indexed.useKind_addReference old]
      exact .inl (.inl ⟨entry, old, rfl⟩)
    · exact .inr ⟨here, rfl⟩
  · exact .inl (.inr ⟨span, named, rfl⟩)

theorem Indexed.mem_occurrencesAt_addReference (indexed : workspace.Indexed)
    (about : workspace.subjectsAt uri offset ≠ []) :
    (occurrence ∈ workspace.occurrencesAt uri offset →
      occurrence ∈ (workspace.addReference reference).occurrencesAt uri offset) ∧
    (occurrence ∈ (workspace.addReference reference).occurrencesAt uri offset →
      occurrence ∈ workspace.occurrencesAt uri offset ∨
        reference.uri = workspace.topLevelFile uri ∧ occurrence.span = reference.range) := by
  have host : (workspace.addReference reference).topLevelFile uri = workspace.topLevelFile uri :=
    rfl
  simp only [occurrencesAt, subjectsAt_addReference about, host, List.mem_flatMap]
  constructor
  · rintro ⟨symbol, subject, shown⟩
    exact ⟨symbol, subject, indexed.occurrences_addReference shown⟩
  · rintro ⟨symbol, subject, shown⟩
    rcases indexed.of_occurrences_addReference shown with old | new
    · exact .inl ⟨symbol, subject, old⟩
    · exact .inr new

/-! ## Highlights -/

/-- A region that is triggered gives the same usages, whatever references there are. -/
theorem find_addReference_of_regionAt {region : HighlightRegion}
    (marked : workspace.regionAt uri offset = some region) :
    Usages.find (workspace.addReference reference).engine uri offset =
      Usages.find workspace.engine uri offset := by
  have highlighters : (workspace.addReference reference).engine.usageHighlighter uri offset =
      workspace.engine.usageHighlighter uri offset := rfl
  have present : workspace.engine.usageHighlighter uri offset =
      some ⟨region.featureId, .ok ⟨region.reads, region.writes⟩⟩ := by
    simp only [engine, usageHighlighter, marked, Option.map_some]
  rw [Usages.find, Usages.find, highlighters, present]

/-- Without a region, what is shown before and after are the occurrences of the same symbols. -/
theorem Complete.documentHighlight_addReference (complete : workspace.Complete)
    (known : ∀ target ∈ reference.targets, workspace.Has target) {position : Position}
    {highlights : List Highlight}
    (located : offsetIn workspace.engine uri position = .ok offset)
    (plain : workspace.regionAt uri offset = none)
    (success : (documentHighlight workspace.engine uri position).answer = .ok highlights)
    (shown : highlights ≠ []) :
    ∃ more, (documentHighlight (workspace.addReference reference).engine uri position).answer =
        .ok more ∧
      highlights.Subperm more ∧
      ∀ highlight ∈ more, highlight ∈ highlights ∨
        reference.uri = workspace.topLevelFile uri ∧
          highlight.range = (workspace.engine.lineIndex reference.uri).range reference.range := by
  have grown := complete.addReference known
  have held := ((complete.documentHighlight_eq_ok_iff located plain).mp success).1
  obtain ⟨before, distinct, listed, rfl⟩ := complete.exists_occurrences located plain success
  have about : workspace.subjectsAt uri offset ≠ [] := by
    intro nothing
    obtain ⟨occurrence, member⟩ := List.exists_mem_of_ne_nil before (by rintro rfl; exact shown rfl)
    have contrary := (listed occurrence).mp member
    simp [occurrencesAt, nothing] at contrary
  have success' := (grown.documentHighlight_eq_ok_iff located plain).mpr
    ⟨.inr (held.resolve_left about), rfl⟩
  obtain ⟨after, -, listed', same⟩ := grown.exists_occurrences located plain success'
  refine ⟨_, same ▸ success', ?_, ?_⟩
  · have kept : before ⊆ after := by
      intro occurrence member
      rw [listed']
      exact (complete.indexed.mem_occurrencesAt_addReference about).1 ((listed _).mp member)
    obtain ⟨sorted, perm, sublist⟩ := distinct.subperm kept
    exact ⟨_, perm.map _, sublist.map _⟩
  · intro highlight member
    obtain ⟨occurrence, present, rfl⟩ := List.mem_map.mp member
    rcases (complete.indexed.mem_occurrencesAt_addReference about).2
      ((listed' occurrence).mp present) with old | ⟨here, span⟩
    · exact .inl (List.mem_map_of_mem ((listed _).mpr old))
    · refine .inr ⟨here, ?_⟩
      rw [here, ← span]
      rfl

/-- A request that shows something still succeeds when a reference has been added. It shows all that
it did show, and besides at most the place of the new reference. -/
theorem documentHighlight_addReference_grows {changes : List Change} {reference : SymbolReference}
    {uri : Uri} {position : Position} {highlights : List Highlight}
    (ready : (empty.run changes).ready = true) (linked : (empty.run changes).Linked)
    (known : ∀ target ∈ reference.targets, (empty.run changes).Has target)
    (success : (documentHighlight (empty.run changes).engine uri position).answer = .ok highlights)
    (shown : highlights ≠ []) :
    let workspace := empty.run changes
    ∃ more, (documentHighlight (workspace.addReference reference).engine uri position).answer =
        .ok more ∧
      highlights.Subperm more ∧
      ∀ highlight ∈ more, highlight ∈ highlights ∨
        reference.uri = workspace.topLevelFile uri ∧
          highlight.range = (workspace.engine.lineIndex reference.uri).range reference.range := by
  intro workspace
  have complete : workspace.Complete := ⟨ready, run_indexed empty_indexed changes, linked⟩
  obtain ⟨offset, sets, located, found, held, rest⟩ := documentHighlight_eq_ok_iff.mp success
  cases marked : workspace.regionAt uri offset with
  | none => exact complete.documentHighlight_addReference known located marked success shown
  | some region =>
    have again : (documentHighlight (workspace.addReference reference).engine uri position).answer =
        .ok highlights := by
      rw [← find_addReference_of_regionAt marked] at found
      exact documentHighlight_eq_ok_iff.mpr ⟨offset, sets, located, found, held, rest⟩
    exact ⟨highlights, again, .refl _, fun _ => .inl⟩

/-- A document with two variables, both of which its last reference may mean. The first variable is
written where it is declared and read once more. -/
def sharedChanges : List Change :=
  [.document { uri := ⟨"file:///a"⟩, text := "x y\nx = x" },
    .symbol { SymbolDefinition.ofName "x" .localVar ⟨"file:///a"⟩ 0 with declarationWrites := true },
    .symbol (.ofName "y" .localVar ⟨"file:///a"⟩ 2),
    .reference { uri := ⟨"file:///a"⟩, range := ⟨4, 5⟩, targets := [.ofIndex 0] },
    .reference { uri := ⟨"file:///a"⟩, range := ⟨8, 9⟩, targets := [.ofIndex 0, .ofIndex 1] }]

/-- The new reference writes the first variable at the name of the second. -/
theorem documentHighlight_addReference_grows_shared :
    let workspace := empty.run sharedChanges
    let reference : SymbolReference :=
      { uri := ⟨"file:///a"⟩, range := ⟨2, 3⟩, targets := [.ofIndex 0], access := .write }
    workspace.ready = true ∧ workspace.Linked ∧
      (∀ target ∈ reference.targets, workspace.Has target) ∧
      ∃ highlights more,
        (documentHighlight workspace.engine ⟨"file:///a"⟩ ⟨1, 4⟩).answer = .ok highlights ∧
        highlights.length = 4 ∧
        (documentHighlight (workspace.addReference reference).engine ⟨"file:///a"⟩ ⟨1, 4⟩).answer =
          .ok more ∧
        highlights.Subperm more := by
  intro workspace reference
  have ready : workspace.ready = true := by decide
  have linked : workspace.Linked := by decide
  have known : ∀ target ∈ reference.targets, workspace.Has target := by decide
  have success : (documentHighlight workspace.engine ⟨"file:///a"⟩ ⟨1, 4⟩).answer =
      .ok [⟨⟨⟨1, 0⟩, ⟨1, 1⟩⟩, .read⟩, ⟨⟨⟨1, 4⟩, ⟨1, 5⟩⟩, .read⟩, ⟨⟨⟨0, 0⟩, ⟨0, 1⟩⟩, .write⟩,
        ⟨⟨⟨0, 2⟩, ⟨0, 3⟩⟩, .text⟩] := by cbv
  obtain ⟨more, success', kept, -⟩ :=
    documentHighlight_addReference_grows ready linked known success (List.cons_ne_nil _ _)
  exact ⟨ready, linked, known, _, more, success, rfl, success', kept⟩

end Workspace

end CodeBridge

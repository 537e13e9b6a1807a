import CodeBridge.Proofs.Request.Occurrences
import Mathlib.Data.List.Induction

/-! # Merged usage sets

Usage sets that are added to one list of highlights are merged: what they show is written down set by
set, and of equal occurrences only the first one stays. `firstOccurrences` says that by places: an
entry stays if its occurrence does not stand at an earlier place. The list of highlights, which
keeps an account of what it has seen, comes to the same, in the same order, and each occurrence is
shown in the positions of the set that it was first in.

A set that has been added before adds nothing, whatever comes between and afterwards.
-/

namespace CodeBridge

/-! ## What stays of a list of entries -/

/-- The entries whose occurrence has no earlier place, in their order. -/
def firstOccurrences (entries : List (Occurrence × LineIndex)) : List (Occurrence × LineIndex) :=
  (entries.zipIdx.filter fun (entry, place) =>
    entry.1 ∉ (entries.take place).map Prod.fst).map Prod.fst

theorem firstOccurrences_concat (entries : List (Occurrence × LineIndex))
    (entry : Occurrence × LineIndex) :
    firstOccurrences (entries ++ [entry]) =
      firstOccurrences entries ++ if entry.1 ∈ entries.map Prod.fst then [] else [entry] := by
  -- An entry that was there before has the same entries in front of it as then.
  have before : ∀ placed ∈ entries.zipIdx, (entries ++ [entry]).take placed.2 =
      entries.take placed.2 := by
    intro placed member
    have bound := List.snd_lt_of_mem_zipIdx member
    exact List.take_append_of_le_length (by omega)
  have kept : (entries.zipIdx.filter fun (old, place) =>
        old.1 ∉ ((entries ++ [entry]).take place).map Prod.fst) =
      entries.zipIdx.filter fun (old, place) => old.1 ∉ (entries.take place).map Prod.fst := by
    refine List.filter_congr fun placed member => ?_
    simp only [before placed member]
  rw [firstOccurrences, List.zipIdx_append, List.filter_append, List.map_append, kept]
  refine congrArg (firstOccurrences entries ++ ·) ?_
  by_cases there : entry.1 ∈ entries.map Prod.fst
  · simp [there]
  · simp [there]

/-- The entries that stay are those that a list of highlights collects, oldest first. -/
theorem firstOccurrences_eq_reverse (entries : List (Occurrence × LineIndex)) :
    firstOccurrences entries = (firstEntries entries).reverse := by
  induction entries using List.reverseRecOn with
  | nil => rfl
  | append_singleton entries entry ih =>
    rw [firstOccurrences_concat, firstEntries_concat, ih]
    by_cases there : entry.1 ∈ entries.map Prod.fst
    · rw [if_pos there, if_pos (mem_map_fst_firstEntries.mpr there), List.append_nil]
    · rw [if_neg there, if_neg fun listed => there (mem_map_fst_firstEntries.mp listed),
        List.reverse_cons]

/-! ## Adding a set again -/

namespace HighlightList

variable {shown : HighlightList} {usages : UsageSet}

theorem push_of_seen {occurrence : Occurrence} (seen : occurrence ∈ shown.seen)
    (index : LineIndex) : shown.push index occurrence = shown :=
  if_pos (List.contains_iff_mem.mpr seen)

theorem add_of_seen (seen : ∀ occurrence ∈ usages.occurrences, occurrence ∈ shown.seen)
    (index : LineIndex) : shown.add usages index = shown := by
  unfold add
  generalize usages.occurrences = occurrences at seen
  induction occurrences with
  | nil => rfl
  | cons occurrence rest ih =>
    obtain ⟨first, later⟩ := List.forall_mem_cons.mp seen
    rw [List.foldl_cons, push_of_seen first, ih later]

/-! ## Runs of additions -/

/-- Adds usage sets one after the other, each with the line index of its document. -/
def addAll (shown : HighlightList) (added : List (UsageSet × LineIndex)) : HighlightList :=
  added.foldl (fun shown set => shown.add set.1 set.2) shown

theorem addAll_append (shown : HighlightList) (first second : List (UsageSet × LineIndex)) :
    shown.addAll (first ++ second) = (shown.addAll first).addAll second :=
  List.foldl_append

end HighlightList

/-- What a usage set shows: each span with its kind, reads before writes, writes before plain
occurrences, and the name of the declaration at the end. -/
def UsageSet.kindedSpans (usages : UsageSet) : List (Span × HighlightKind) :=
  usages.reads.map (·, .read) ++ usages.writes.map (·, .write) ++ usages.text.map (·, .text) ++
    usages.declaration.toList

/-- All that some usage sets show, with the document and the line index of each set. -/
def entriesOf (added : List (UsageSet × LineIndex)) : List (Occurrence × LineIndex) :=
  added.flatMap fun (usages, index) =>
    usages.kindedSpans.map fun (span, kind) => (⟨usages.file, span, kind⟩, index)

theorem map_kindedSpans_eq_occurrences (usages : UsageSet) :
    usages.kindedSpans.map (fun (span, kind) => (⟨usages.file, span, kind⟩ : Occurrence)) =
      usages.occurrences := by
  simp only [UsageSet.kindedSpans, UsageSet.occurrences, List.map_append, List.map_map]
  cases usages.declaration with
  | none => rfl
  | some named => rfl

theorem entriesOf_cons (usages : UsageSet) (index : LineIndex)
    (rest : List (UsageSet × LineIndex)) :
    entriesOf ((usages, index) :: rest) = usages.occurrences.map (·, index) ++ entriesOf rest := by
  rw [entriesOf, List.flatMap_cons, ← map_kindedSpans_eq_occurrences, List.map_map]
  rfl

theorem mem_fst_entriesOf {added : List (UsageSet × LineIndex)} {usages : UsageSet}
    (member : usages ∈ added.map Prod.fst) {occurrence : Occurrence}
    (shows : occurrence ∈ usages.occurrences) : occurrence ∈ (entriesOf added).map Prod.fst := by
  obtain ⟨⟨usages, index⟩, listed, rfl⟩ := List.mem_map.mp member
  rw [← map_kindedSpans_eq_occurrences] at shows
  obtain ⟨⟨span, kind⟩, inSet, rfl⟩ := List.mem_map.mp shows
  refine List.mem_map.mpr ⟨(⟨usages.file, span, kind⟩, index), ?_, rfl⟩
  exact List.mem_flatMap.mpr ⟨(usages, index), listed, List.mem_map_of_mem inSet⟩

namespace HighlightList

variable {shown : HighlightList}

theorem Collects.addAll {entries : List (Occurrence × LineIndex)} (collects : shown.Collects entries)
    (added : List (UsageSet × LineIndex)) :
    (shown.addAll added).Collects (entries ++ entriesOf added) := by
  induction added generalizing shown entries with
  | nil => simpa [HighlightList.addAll, entriesOf] using collects
  | cons set rest ih =>
    have next := ih (collects.add set.1 set.2)
    rwa [List.append_assoc, ← entriesOf_cons] at next

/-- Usage sets that are added one after the other are shown as the first occurrences of all that they
show, each in the positions of its own set. None of these is lost, none is shown twice, and a set
that was added before changes nothing. -/
theorem addAll_shows_first_occurrences (added : List (UsageSet × LineIndex)) :
    (empty.addAll added).finish =
      (firstOccurrences (entriesOf added)).map (fun entry => entry.1.shownIn entry.2) ∧
    (∀ occurrence, occurrence ∈ (firstOccurrences (entriesOf added)).map Prod.fst ↔
      occurrence ∈ (entriesOf added).map Prod.fst) ∧
    ((firstOccurrences (entriesOf added)).map Prod.fst).Nodup ∧
    ∀ usages ∈ added.map Prod.fst, ∀ index later,
      empty.addAll (added ++ (usages, index) :: later) = empty.addAll (added ++ later) := by
  have collects := empty_collects.addAll added
  rw [List.nil_append] at collects
  refine ⟨?_, ?_, ?_, ?_⟩
  · rw [finish, collects.newestFirst, firstOccurrences_eq_reverse, List.map_reverse]
  · intro occurrence
    rw [firstOccurrences_eq_reverse, List.map_reverse, List.mem_reverse, mem_map_fst_firstEntries]
  · rw [firstOccurrences_eq_reverse, List.map_reverse]
    exact List.nodup_reverse.mpr (firstEntries_distinct _)
  · intro usages member index later
    have seen : ∀ occurrence ∈ usages.occurrences, occurrence ∈ (empty.addAll added).seen := by
      intro occurrence shows
      rw [collects.seen, mem_map_fst_firstEntries]
      exact mem_fst_entriesOf member shows
    have unchanged := add_of_seen seen index
    rw [addAll_append, addAll_append]
    exact congrArg (HighlightList.addAll · later) unchanged

/-- The second set shows what the first one does and a name of its own, and it is of a text with
other lines. Only the name is shown in these. -/
theorem addAll_shows_first_occurrences_repeated :
    let first : UsageSet := { file := ⟨"file:///a"⟩, text := [⟨0, 2⟩, ⟨6, 8⟩] }
    let second : UsageSet :=
      { file := ⟨"file:///a"⟩, text := [⟨6, 8⟩, ⟨0, 2⟩], declaration := some (⟨6, 8⟩, .write) }
    let added := [(first, LineIndex.ofText "go(); go();"), (second, .ofText "go();\ngo();")]
    first ∈ added.map Prod.fst ∧
      (empty.addAll added).finish = [⟨⟨⟨0, 0⟩, ⟨0, 2⟩⟩, .text⟩, ⟨⟨⟨0, 6⟩, ⟨0, 8⟩⟩, .text⟩,
        ⟨⟨⟨1, 0⟩, ⟨1, 2⟩⟩, .write⟩] ∧
      ∀ index, empty.addAll (added ++ [(first, index)]) = empty.addAll added := by
  intro first second added
  have member : first ∈ added.map Prod.fst := List.mem_cons_self
  obtain ⟨finish, -, -, again⟩ := addAll_shows_first_occurrences added
  refine ⟨member, finish.trans (by decide), fun index => ?_⟩
  exact (again first member index []).trans (by rw [List.append_nil])

end HighlightList

end CodeBridge

import CodeBridge.Engine.Workspace
import Mathlib.Data.List.Basic

/-! # Tables after a run of changes

Changes only ever add entries, so a table holds after a run what it held before and, behind that,
what the run added to it, in the order of the run (`run_table`).

The index of references is a second table over the first: for each document the places of its
references. `Indexed` says that the two agree. Every change keeps that, and where it holds the
references of a document are simply those of the whole table that stand in it. No run of changes,
over however many documents, makes the two part (`run_index_agrees_with_table`).
-/

namespace CodeBridge

/-- Places increase along a table. -/
theorem zipIdx_increasing {α : Type} (entries : List α) :
    entries.zipIdx.Pairwise fun first second => first.2 < second.2 := by
  apply List.pairwise_map.mp
  rw [List.zipIdx_map_snd]
  exact List.pairwise_lt_range'

namespace Workspace

/-! ## What a change adds -/

def Change.document? : Change → Option Document
  | .document entry => some entry
  | _ => none

def Change.symbol? : Change → Option SymbolDefinition
  | .symbol entry => some entry
  | _ => none

def Change.reference? : Change → Option SymbolReference
  | .reference entry => some entry
  | _ => none

def Change.highlighter? : Change → Option HighlightRegion
  | .highlighter entry => some entry
  | _ => none

def Change.completion? : Change → Option (Uri × Candidate)
  | .completion uri candidate => some (uri, candidate)
  | _ => none

/-- The readiness that a change sets. -/
def Change.ready? : Change → Option Bool
  | .ready value => some value
  | _ => none

/-- A table that every change extends at its end, or leaves alone, collects what the changes of a
run add to it. -/
theorem run_table {α : Type} (table : Workspace → List α) (added : Change → Option α)
    (step : ∀ workspace change,
      table (workspace.apply change) = table workspace ++ (added change).toList)
    (workspace : Workspace) (changes : List Change) :
    table (workspace.run changes) = table workspace ++ changes.filterMap added := by
  induction changes generalizing workspace with
  | nil => simp [run]
  | cons change rest ih =>
    change table ((workspace.apply change).run rest) = _
    rw [ih, step, List.append_assoc]
    cases new : added change with
    | none => simp [new]
    | some entry => simp [new]

/-- Documents are kept newest first, so read backwards they grow at their end as well. -/
theorem run_documents (workspace : Workspace) (changes : List Change) :
    (workspace.run changes).documents.reverse =
      workspace.documents.reverse ++ changes.filterMap Change.document? := by
  refine run_table (·.documents.reverse) Change.document? ?_ workspace changes
  intro workspace change
  cases change with
  | document document => exact List.reverse_cons
  | _ => exact (List.append_nil _).symm

theorem run_symbols (workspace : Workspace) (changes : List Change) :
    (workspace.run changes).symbols = workspace.symbols ++ changes.filterMap Change.symbol? := by
  refine run_table Workspace.symbols Change.symbol? ?_ workspace changes
  intro workspace change
  cases change with
  | symbol definition => rfl
  | _ => exact (List.append_nil _).symm

theorem run_references (workspace : Workspace) (changes : List Change) :
    (workspace.run changes).references =
      workspace.references ++ changes.filterMap Change.reference? := by
  refine run_table Workspace.references Change.reference? ?_ workspace changes
  intro workspace change
  cases change with
  | reference reference => rfl
  | _ => exact (List.append_nil _).symm

theorem run_highlighters (workspace : Workspace) (changes : List Change) :
    (workspace.run changes).highlighters =
      workspace.highlighters ++ changes.filterMap Change.highlighter? := by
  refine run_table Workspace.highlighters Change.highlighter? ?_ workspace changes
  intro workspace change
  cases change with
  | highlighter region => rfl
  | _ => exact (List.append_nil _).symm

theorem run_completions (workspace : Workspace) (changes : List Change) :
    (workspace.run changes).completions =
      workspace.completions ++ changes.filterMap Change.completion? := by
  refine run_table Workspace.completions Change.completion? ?_ workspace changes
  intro workspace change
  cases change with
  | completion uri candidate => rfl
  | _ => exact (List.append_nil _).symm

/-- The index is as ready as the last change that says so, if any does. -/
theorem run_ready (workspace : Workspace) (changes : List Change) :
    (workspace.run changes).ready =
      (changes.filterMap Change.ready?).getLastD workspace.ready := by
  induction changes generalizing workspace with
  | nil => rfl
  | cons change rest ih =>
    change ((workspace.apply change).run rest).ready = _
    rw [ih]
    cases change with
    | ready value => exact List.getLastD_cons.symm
    | _ => rfl

/-! ## Workspaces with the same tables -/

/-- A workspace with the same tables, whatever its readiness and its count of features. -/
def SameTables (workspace other : Workspace) : Prop :=
  ∃ ready features, other = { workspace with ready := ready, featureUses := features }

theorem SameTables.refl (workspace : Workspace) : workspace.SameTables workspace :=
  ⟨workspace.ready, workspace.featureUses, rfl⟩

theorem SameTables.trans {first second third : Workspace} (left : first.SameTables second)
    (right : second.SameTables third) : first.SameTables third := by
  obtain ⟨_, _, rfl⟩ := left
  obtain ⟨ready, features, rfl⟩ := right
  exact ⟨ready, features, rfl⟩

theorem sameTables_setReady (workspace : Workspace) (ready : Bool) :
    workspace.SameTables (workspace.setReady ready) :=
  ⟨ready, workspace.featureUses, rfl⟩

end Workspace

/-! ## The index of references -/

namespace ReferenceIndex

theorem lookup_insertIn (uri other : Uri) (place : Nat) (entries : List (Uri × List Nat)) :
    ((insertIn uri place entries).lookup other).getD [] =
      (entries.lookup other).getD [] ++ if other = uri then [place] else [] := by
  induction entries with
  | nil =>
    by_cases same : other = uri
    · simp [insertIn, same]
    · simp [insertIn, List.lookup_cons, beq_false_of_ne same, same]
  | cons entry rest ih =>
    obtain ⟨known, places⟩ := entry
    unfold insertIn
    by_cases here : other = known
    · -- The first entry of `other` is the one that is read and, for `uri`, the one that grows.
      subst here
      by_cases same : uri = other
      · simp [same]
      · simp [same, Ne.symm same]
    · by_cases found : uri = known
      · simp [List.lookup_cons, beq_false_of_ne here, found, here]
      · simpa [List.lookup_cons, beq_false_of_ne here, found] using ih

theorem places_insert (index : ReferenceIndex) (uri other : Uri) (place : Nat) :
    (index.insert uri place).places other =
      index.places other ++ if other = uri then [place] else [] :=
  lookup_insertIn uri other place index.entries

end ReferenceIndex

namespace Workspace

/-- The index lists, for each document, the places of its references in increasing order. -/
def Indexed (workspace : Workspace) : Prop :=
  ∀ uri, workspace.referenceIndex.places uri =
    (workspace.references.zipIdx.filter (·.1.uri = uri)).map Prod.snd

theorem empty_indexed : empty.Indexed := fun _ => rfl

theorem addReference_indexed {workspace : Workspace} (indexed : workspace.Indexed)
    (reference : SymbolReference) : (workspace.addReference reference).Indexed := by
  intro uri
  change (workspace.referenceIndex.insert reference.uri workspace.references.length).places uri = _
  rw [ReferenceIndex.places_insert, indexed uri]
  by_cases here : uri = reference.uri
  · simp [addReference, List.zipIdx_append, here]
  · simp [addReference, List.zipIdx_append, here, Ne.symm here]

theorem apply_indexed {workspace : Workspace} (indexed : workspace.Indexed) (change : Change) :
    (workspace.apply change).Indexed := by
  cases change with
  | reference reference => exact addReference_indexed indexed reference
  | _ => exact indexed

theorem run_indexed {workspace : Workspace} (indexed : workspace.Indexed) (changes : List Change) :
    (workspace.run changes).Indexed := by
  induction changes generalizing workspace with
  | nil => exact indexed
  | cons change rest ih => exact ih (apply_indexed indexed change)

/-- Through an index that agrees with the table, a document's references are those of the table that
stand in it. -/
theorem Indexed.referencesIn {workspace : Workspace} (indexed : workspace.Indexed) (uri : Uri) :
    workspace.referencesIn uri = workspace.references.filter (·.uri = uri) := by
  have found : ∀ entry ∈ workspace.references.zipIdx.filter (·.1.uri = uri),
      workspace.references[entry.2]? = some entry.1 := by
    intro entry member
    exact List.mem_zipIdx_iff_getElem?.mp (List.mem_filter.mp member).1
  rw [Workspace.referencesIn, indexed uri, List.filterMap_map]
  calc
    _ = (workspace.references.zipIdx.filter (·.1.uri = uri)).filterMap (some ∘ Prod.fst) :=
      List.filterMap_congr found
    _ = ((workspace.references.zipIdx.map Prod.fst).filter (·.uri = uri)) := by
      rw [List.filterMap_eq_map, List.filter_map]
      rfl
    _ = workspace.references.filter (·.uri = uri) := by rw [List.zipIdx_map_fst]

/-- The places of the whole table increase, and the index keeps some of them in their order. -/
theorem Indexed.places_increasing {workspace : Workspace} (indexed : workspace.Indexed)
    (uri : Uri) : (workspace.referenceIndex.places uri).Pairwise (· < ·) := by
  rw [indexed uri]
  exact List.pairwise_map.mpr ((zipIdx_increasing workspace.references).filter _)

theorem Indexed.mem_places_iff {workspace : Workspace} (indexed : workspace.Indexed) (uri : Uri)
    (place : Nat) :
    place ∈ workspace.referenceIndex.places uri ↔
      ∃ reference, workspace.references[place]? = some reference ∧ reference.uri = uri := by
  rw [indexed uri, List.mem_map]
  constructor
  · rintro ⟨entry, member, rfl⟩
    obtain ⟨listed, here⟩ := List.mem_filter.mp member
    exact ⟨entry.1, List.mem_zipIdx_iff_getElem?.mp listed, of_decide_eq_true here⟩
  · rintro ⟨reference, found, here⟩
    refine ⟨(reference, place), List.mem_filter.mpr ⟨?_, decide_eq_true here⟩, rfl⟩
    exact List.mem_zipIdx_iff_getElem?.mpr found

/-- Every place of the index leads to an entry of the table, so none of them is passed over. -/
theorem Indexed.map_getElem?_places {workspace : Workspace} (indexed : workspace.Indexed)
    (uri : Uri) :
    (workspace.referenceIndex.places uri).map (workspace.references[·]?) =
      (workspace.referencesIn uri).map some := by
  rw [Workspace.referencesIn, List.map_filterMap, ← List.filterMap_eq_map]
  refine List.filterMap_congr fun place member => ?_
  obtain ⟨reference, found, -⟩ := (indexed.mem_places_iff uri place).mp member
  simp [found]

/-- After any run of changes the index of a document lists, in increasing order, exactly the places
of its references in the table. Each of these places is in the table, and reading them off gives the
references of the document in the order in which they were added. -/
theorem run_index_agrees_with_table (changes : List Change) (uri : Uri) :
    let workspace := empty.run changes
    (workspace.referenceIndex.places uri).Pairwise (· < ·) ∧
    (∀ place, place ∈ workspace.referenceIndex.places uri ↔
      ∃ reference, workspace.references[place]? = some reference ∧ reference.uri = uri) ∧
    (workspace.referenceIndex.places uri).map (workspace.references[·]?) =
      (workspace.referencesIn uri).map some ∧
    workspace.referencesIn uri = workspace.references.filter (·.uri = uri) ∧
    workspace.references = changes.filterMap Change.reference? := by
  intro workspace
  have indexed : workspace.Indexed := run_indexed empty_indexed changes
  exact ⟨indexed.places_increasing uri, indexed.mem_places_iff uri,
    indexed.map_getElem?_places uri, indexed.referencesIn uri, run_references empty changes⟩

end Workspace

end CodeBridge

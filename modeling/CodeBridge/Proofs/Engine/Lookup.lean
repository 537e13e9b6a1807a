import CodeBridge.Proofs.Answer
import CodeBridge.Proofs.Engine.Links
import CodeBridge.Request.Error

/-! # Looking the same entry up twice

A request first finds an entry by an offset and keeps no more of it than where it stands; later it
looks for the first entry that stands exactly there. Spans may overlap, coincide, be empty or be
inverted, and still the second look-up ends at the entry of the first: whatever stands at the same
span contains the same offset, so an earlier match would have been found before.

For declarations this also needs that their numbers are told apart, which a table of at most 2 ^ 32
entries provides.
-/

namespace CodeBridge

section First

variable {α : Type} {wide narrow : α → Bool} {entries : List α}

/-- The first entry that passes a test is also the first that passes any narrower one, provided that
it does pass it. -/
theorem find?_of_narrower {entry : α} (found : entries.find? wide = some entry)
    (passes : narrow entry = true)
    (narrower : ∀ other ∈ entries, narrow other = true → wide other = true) :
    entries.find? narrow = some entry := by
  obtain ⟨-, before, after, rfl, fail⟩ := List.find?_eq_some_iff_append.mp found
  refine List.find?_eq_some_iff_append.mpr ⟨passes, before, after, rfl, ?_⟩
  intro other member
  have refused := fail other member
  simp only [Bool.not_eq_true'] at refused ⊢
  rw [Bool.eq_false_iff] at refused ⊢
  exact fun passed => refused (narrower other (List.mem_append_left _ member) passed)

theorem findIdx?_of_narrower {index : Nat} (found : entries.findIdx? wide = some index)
    (passes : ∀ entry, entries[index]? = some entry → narrow entry = true)
    (narrower : ∀ other ∈ entries, narrow other = true → wide other = true) :
    entries.findIdx? narrow = some index := by
  obtain ⟨bound, -, fail⟩ := List.findIdx?_eq_some_iff_getElem.mp found
  refine List.findIdx?_eq_some_iff_getElem.mpr ⟨bound, ?_, ?_⟩
  · exact passes _ (List.getElem?_eq_getElem bound)
  · intro place before passed
    exact fail place before (narrower _ (List.getElem_mem _) passed)

end First

namespace SymbolDefinition

variable {definition : SymbolDefinition} {uri : Uri} {span : Span} {offset : Nat}

theorem covers_iff : definition.covers uri offset = true ↔
    definition.location.uri = uri ∧
      ∃ range, definition.nameRange = some range ∧ range.contains offset = true := by
  simp only [covers, Bool.and_eq_true, decide_eq_true_eq, Option.any_eq_true]

theorem isNamedAt_iff : definition.isNamedAt uri span = true ↔
    definition.location.uri = uri ∧ definition.nameRange = some span := by
  simp only [isNamedAt, Bool.and_eq_true, decide_eq_true_eq]

theorem covers_of_isNamedAt (inside : span.contains offset = true)
    (named : definition.isNamedAt uri span = true) : definition.covers uri offset = true := by
  obtain ⟨here, named⟩ := isNamedAt_iff.mp named
  exact covers_iff.mpr ⟨here, span, named, inside⟩

end SymbolDefinition

namespace Workspace

variable {workspace : Workspace} {uri : Uri} {offset : Nat}

/-! ## Documents -/

/-- In a document that is there, a position has an offset or is out of range. -/
theorem offsetIn_of_document? {document : Document}
    (held : workspace.document? uri = some document) (position : Position) :
    offsetIn workspace.engine uri position =
      ((LineIndex.ofText document.text).offset position).mapError .outOfRange := by
  simp only [offsetIn, openDocument, engine, held, Option.map_some, ok_bind]

theorem offsetIn_eq_ok {document : Document} (held : workspace.document? uri = some document)
    {position : Position}
    (located : (LineIndex.ofText document.text).offset position = .ok offset) :
    offsetIn workspace.engine uri position = .ok offset := by
  rw [offsetIn_of_document? held, located]
  rfl

/-! ## References -/

theorem Indexed.referenceOver (indexed : workspace.Indexed) (uri : Uri) (offset : Nat) :
    workspace.referenceOver uri offset =
      workspace.references.find? fun entry => entry.uri = uri && entry.range.contains offset := by
  rw [Workspace.referenceOver, indexed.referencesIn, List.find?_filter]
  simp only [decide_eq_true_eq, Bool.decide_and, Bool.decide_eq_true]

theorem contains_of_referenceOver {entry : SymbolReference}
    (found : workspace.referenceOver uri offset = some entry) :
    entry.range.contains offset = true := by
  have passes := List.find?_some found
  exact passes

/-- The handle of the reference over an offset leads back to that reference. -/
theorem Indexed.entryOf_referenceOver (indexed : workspace.Indexed) {entry : SymbolReference}
    (found : workspace.referenceOver uri offset = some entry) :
    workspace.entryOf ⟨entry.uri, entry.range⟩ = some entry := by
  have member := List.mem_of_find?_eq_some found
  rw [indexed.referencesIn, List.mem_filter, decide_eq_true_eq] at member
  rw [entryOf, member.2]
  refine find?_of_narrower found (decide_eq_true rfl) ?_
  intro other _ same
  rw [of_decide_eq_true same]
  exact contains_of_referenceOver found

/-! ## Declarations -/

/-- The first declaration whose name stands over an offset, and its place in the table. -/
def declaredAt (workspace : Workspace) (uri : Uri) (offset : Nat) :
    Option (SymbolDefinition × Nat) :=
  workspace.symbols.zipIdx.find? fun entry => entry.1.covers uri offset

theorem declaredAt_eq_some_iff {definition : SymbolDefinition} {index : Nat} :
    workspace.declaredAt uri offset = some (definition, index) ↔
      workspace.symbols.findIdx? (·.covers uri offset) = some index ∧
        workspace.symbols[index]? = some definition := by
  rw [declaredAt, List.findIdx?_eq_fst_find?_zipIdx]
  constructor
  · intro found
    rw [found]
    exact ⟨rfl, List.mem_zipIdx_iff_getElem?.mp (List.mem_of_find?_eq_some found)⟩
  · rintro ⟨first, present⟩
    obtain ⟨⟨other, place⟩, found, rfl⟩ := Option.map_eq_some_iff.mp first
    have same := List.mem_zipIdx_iff_getElem?.mp (List.mem_of_find?_eq_some found)
    rw [found, Option.some.inj (present.symm.trans same)]

theorem declaredAt_eq_none_iff : workspace.declaredAt uri offset = none ↔
    workspace.symbols.findIdx? (·.covers uri offset) = none := by
  rw [declaredAt, List.findIdx?_eq_fst_find?_zipIdx, Option.map_eq_none_iff]

section Declared

variable {definition : SymbolDefinition} {index : Nat} {range : Span}

theorem covers_of_declaredAt (found : workspace.declaredAt uri offset = some (definition, index)) :
    definition.covers uri offset = true := by
  have passes := List.find?_some found
  exact passes

theorem declarationAt_of_declaredAt
    (found : workspace.declaredAt uri offset = some (definition, index)) :
    workspace.declarationAt uri offset = some (.ofIndex index) := by
  rw [declarationAt, (declaredAt_eq_some_iff.mp found).1]
  rfl

theorem declarationAt_of_not_declaredAt (absent : workspace.declaredAt uri offset = none) :
    workspace.declarationAt uri offset = none := by
  rw [declarationAt, declaredAt_eq_none_iff.mp absent]
  rfl

theorem symbol?_of_declaredAt (distinct : workspace.symbols.length ≤ UInt32.size)
    (found : workspace.declaredAt uri offset = some (definition, index)) :
    workspace.symbol? (.ofIndex index) = some definition := by
  have present := (declaredAt_eq_some_iff.mp found).2
  have bound := (List.getElem?_eq_some_iff.mp present).1
  rw [symbol?, SymbolId.index_ofIndex (by omega), present]

/-- The name of the declaration over an offset leads back to that declaration. -/
theorem declarationNamed_of_declaredAt
    (found : workspace.declaredAt uri offset = some (definition, index))
    (named : definition.nameRange = some range) (inside : range.contains offset = true) :
    workspace.declarationNamed uri range = some (.ofIndex index) := by
  obtain ⟨first, present⟩ := declaredAt_eq_some_iff.mp found
  have here := (SymbolDefinition.covers_iff.mp (covers_of_declaredAt found)).1
  have again : workspace.symbols.findIdx? (·.isNamedAt uri range) = some index := by
    refine findIdx?_of_narrower first ?_ ?_
    · intro entry same
      cases present.symm.trans same
      exact SymbolDefinition.isNamedAt_iff.mpr ⟨here, named⟩
    · intro other _
      exact SymbolDefinition.covers_of_isNamedAt inside
  rw [declarationNamed, again]
  rfl

/-- Where no declaration stands, no span over the offset names one. -/
theorem declarationNamed_of_not_declaredAt (absent : workspace.declaredAt uri offset = none)
    (inside : range.contains offset = true) : workspace.declarationNamed uri range = none := by
  rw [declarationNamed, Option.map_eq_none_iff]
  refine List.findIdx?_eq_none_of_findIdx?_eq_none ?_ (declaredAt_eq_none_iff.mp absent)
  intro other _
  exact SymbolDefinition.covers_of_isNamedAt inside

end Declared

end Workspace

end CodeBridge

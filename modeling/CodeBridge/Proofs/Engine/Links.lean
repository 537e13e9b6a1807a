import CodeBridge.Proofs.Engine.Tables
import CodeBridge.Snapshot.Basic

/-! # Links between declarations

Declarations refer to each other by number: a method to those that it overrides, a reference to its
targets. In a linked workspace each of these numbers is that of a declaration. A snapshot is accepted
exactly if its own links are right, and then becomes a linked workspace.

Numbers are 32-bit words, so the number that a look-up gives for a far entry is that of an earlier
one. It still is the number of some declaration, whatever the size of the table.
-/

namespace CodeBridge

theorem SymbolId.index_ofIndex_le (index : Nat) : (SymbolId.ofIndex index).index ≤ index := by
  simp only [SymbolId.index, SymbolId.ofIndex, UInt32.toNat_ofNat']
  exact Nat.mod_le _ _

namespace Workspace

variable {workspace : Workspace}

/-- There is a declaration with this number. -/
def Has (workspace : Workspace) (id : SymbolId) : Prop :=
  id.index < workspace.symbols.length

instance (workspace : Workspace) (id : SymbolId) : Decidable (workspace.Has id) :=
  inferInstanceAs (Decidable (_ < _))

theorem has_iff_symbol? (id : SymbolId) :
    workspace.Has id ↔ ∃ definition, workspace.symbol? id = some definition := by
  constructor
  · intro bound
    exact ⟨_, List.getElem?_eq_getElem bound⟩
  · rintro ⟨definition, found⟩
    exact (List.getElem?_eq_some_iff.mp found).1

theorem checkSymbol_eq_ok {id : SymbolId} {definition : SymbolDefinition}
    (found : workspace.symbol? id = some definition) : workspace.checkSymbol id = .ok definition := by
  rw [checkSymbol, found]

theorem requireIndex_eq_ok (ready : workspace.ready = true) (operation : String) :
    workspace.requireIndex operation = .ok () := by
  rw [requireIndex, if_pos ready]

theorem has_ofIndex {index : Nat} (bound : index < workspace.symbols.length) :
    workspace.Has (.ofIndex index) :=
  Nat.lt_of_le_of_lt (SymbolId.index_ofIndex_le index) bound

theorem declarationAt_has {uri : Uri} {offset : Nat} {id : SymbolId}
    (found : workspace.declarationAt uri offset = some id) : workspace.Has id := by
  obtain ⟨index, first, rfl⟩ := Option.map_eq_some_iff.mp found
  exact has_ofIndex (List.findIdx?_eq_some_iff_getElem.mp first).1

theorem declarationNamed_has {uri : Uri} {span : Span} {id : SymbolId}
    (found : workspace.declarationNamed uri span = some id) : workspace.Has id := by
  obtain ⟨index, first, rfl⟩ := Option.map_eq_some_iff.mp found
  exact has_ofIndex (List.findIdx?_eq_some_iff_getElem.mp first).1

theorem mem_references_of_mem_referencesIn {uri : Uri} {reference : SymbolReference}
    (member : reference ∈ workspace.referencesIn uri) : reference ∈ workspace.references := by
  obtain ⟨place, -, found⟩ := List.mem_filterMap.mp member
  exact List.mem_of_getElem? found

/-- Every number that the workspace stores is that of a declaration. -/
structure Linked (workspace : Workspace) : Prop where
  superMethods : ∀ definition ∈ workspace.symbols, ∀ method ∈ definition.superMethods,
    workspace.Has method
  targets : ∀ reference ∈ workspace.references, ∀ target ∈ reference.targets, workspace.Has target

instance (workspace : Workspace) : Decidable workspace.Linked :=
  decidable_of_iff (_ ∧ _) ⟨fun both => ⟨both.1, both.2⟩, fun linked => ⟨linked.1, linked.2⟩⟩

theorem Linked.entry_targets (linked : workspace.Linked) {reference : Reference}
    {entry : SymbolReference} (found : workspace.entryOf reference = some entry) :
    ∀ target ∈ entry.targets, workspace.Has target :=
  linked.targets entry (mem_references_of_mem_referencesIn (List.mem_of_find?_eq_some found))

end Workspace

/-! ## Snapshots -/

namespace Snapshot

theorem changes_symbols (snapshot : Snapshot) :
    snapshot.changes.filterMap Workspace.Change.symbol? = snapshot.symbols := by
  simp [changes, List.filterMap_flatMap, Function.comp_def, Workspace.Change.symbol?]

theorem changes_references (snapshot : Snapshot) :
    snapshot.changes.filterMap Workspace.Change.reference? = snapshot.references := by
  simp [changes, List.filterMap_flatMap, Function.comp_def, Workspace.Change.reference?]

/-- Every number of the snapshot is that of one of its declarations. -/
structure Sound (snapshot : Snapshot) : Prop where
  superMethods : ∀ definition ∈ snapshot.symbols, ∀ method ∈ definition.superMethods,
    method.index < snapshot.symbols.length
  targets : ∀ reference ∈ snapshot.references, ∀ target ∈ reference.targets,
    target.index < snapshot.symbols.length

/-- A search among the links of some entries finds nothing exactly if all of their numbers are below
the count. -/
theorem find?_links_eq_none_iff {α : Type} {count : Nat} {owner : α → LinkOwner}
    {ids : α → List SymbolId} {entries : List α} :
    (entries.flatMap fun entry => (ids entry).map (Link.mk (owner entry))).find?
      (fun link => count ≤ link.target.index) = none ↔
      ∀ entry ∈ entries, ∀ id ∈ ids entry, id.index < count := by
  simp only [List.find?_eq_none, List.mem_flatMap, List.mem_map, decide_eq_true_eq, Nat.not_le]
  constructor
  · intro fine entry member id listed
    exact fine ⟨owner entry, id⟩ ⟨entry, member, id, listed, rfl⟩
  · rintro fine _ ⟨entry, member, id, listed, rfl⟩
    exact fine entry member id listed

theorem danglingLink?_eq_none_iff (snapshot : Snapshot) :
    snapshot.danglingLink? = none ↔ snapshot.Sound := by
  rw [danglingLink?, Option.map_eq_none_iff, links, List.find?_append, Option.or_eq_none_iff,
    find?_links_eq_none_iff, find?_links_eq_none_iff]
  exact ⟨fun ⟨methods, targets⟩ => ⟨methods, targets⟩, fun sound => ⟨sound.1, sound.2⟩⟩

/-- A snapshot is accepted exactly if all of its numbers are those of declarations. -/
theorem toWorkspace_eq_ok_iff (snapshot : Snapshot) (workspace : Workspace) :
    snapshot.toWorkspace = .ok workspace ↔
      snapshot.Sound ∧ Workspace.empty.run snapshot.changes = workspace := by
  rw [← danglingLink?_eq_none_iff, toWorkspace]
  cases snapshot.danglingLink? with
  | none => simp
  | some dangling => simp

theorem toWorkspace_linked {snapshot : Snapshot} {workspace : Workspace}
    (accepted : snapshot.toWorkspace = .ok workspace) : workspace.Linked := by
  obtain ⟨sound, rfl⟩ := (toWorkspace_eq_ok_iff snapshot workspace).mp accepted
  have symbols : (Workspace.empty.run snapshot.changes).symbols = snapshot.symbols := by
    rw [Workspace.run_symbols, changes_symbols]
    rfl
  have references : (Workspace.empty.run snapshot.changes).references = snapshot.references := by
    rw [Workspace.run_references, changes_references]
    rfl
  constructor
  · simpa only [Workspace.Has, symbols] using sound.superMethods
  · simpa only [Workspace.Has, symbols, references] using sound.targets

end Snapshot

end CodeBridge

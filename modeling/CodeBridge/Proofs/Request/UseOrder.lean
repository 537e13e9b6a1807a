import CodeBridge.Proofs.Request.Occurrences

/-! # The order of uses

The references of a document to a symbol are given in the order in which they start, and those that
start at the same offset in the order in which they were added: the sort is stable, and only the
start counts, not the stop. With its place in the table each reference is told from all others, even
from one with the same span and the same targets, so that "no reference is lost and none is given
twice" can be said of the references themselves (`sortedUses`).

What is divided into buckets afterwards is this list. Every reference is in one bucket, which
depends on the kind of the symbol and on what the reference does (`useKind`), and no bucket changes
the order.
-/

namespace CodeBridge

/-! ## Stable sorting by a number -/

section Stable

variable {α : Type} {key : α → Nat} {entries : List α}

theorem decide_key_le_trans (key : α → Nat) (a b c : α) (left : decide (key a ≤ key b) = true)
    (right : decide (key b ≤ key c) = true) : decide (key a ≤ key c) = true :=
  decide_eq_true (Nat.le_trans (of_decide_eq_true left) (of_decide_eq_true right))

theorem decide_key_le_total (key : α → Nat) (a b : α) :
    (decide (key a ≤ key b) || decide (key b ≤ key a)) = true := by
  simpa using Nat.le_total (key a) (key b)

/-- The entries with one key come out of the sort as they went in. -/
theorem filter_mergeSort_key (key : α → Nat) (entries : List α) (value : Nat) :
    (entries.mergeSort fun a b => key a ≤ key b).filter (key · = value) =
      entries.filter (key · = value) := by
  have ties : (entries.filter (key · = value)).Pairwise fun a b => decide (key a ≤ key b) := by
    apply List.pairwise_of_forall_mem_list
    intro a left b right
    have leftKey := of_decide_eq_true (List.mem_filter.mp left).2
    have rightKey := of_decide_eq_true (List.mem_filter.mp right).2
    exact decide_eq_true (by omega)
  have kept := List.sublist_mergeSort (decide_key_le_trans key) (decide_key_le_total key) ties
    List.filter_sublist
  have again := kept.filter (key · = value)
  rw [List.filter_filter] at again
  simp only [Bool.and_self] at again
  exact (again.eq_of_length ((List.mergeSort_perm _ _).filter _).length_eq.symm).symm

/-- Entries that stand in some order are sorted by key, and those with the same key are left in that
order. -/
theorem pairwise_mergeSort_key {before : α → α → Prop} (ordered : entries.Pairwise before) :
    (entries.mergeSort fun a b => key a ≤ key b).Pairwise fun a b =>
      key a < key b ∨ key a = key b ∧ before a b := by
  have byKey := List.pairwise_mergeSort (decide_key_le_trans key) (decide_key_le_total key) entries
  rw [List.pairwise_iff_forall_sublist] at byKey ordered ⊢
  intro a b pair
  rcases Nat.lt_or_eq_of_le (of_decide_eq_true (byKey pair)) with less | same
  · exact .inl less
  · refine .inr ⟨same, ordered ?_⟩
    -- Both are among the entries with their key, and the sort has not touched these.
    have among := pair.filter (key · = key b)
    rw [filter_mergeSort_key] at among
    simp only [same, decide_true, List.filter_cons_of_pos, List.filter_nil] at among
    exact among.trans List.filter_sublist

end Stable

/-! ## Buckets -/

/-- The spans of a set that are shown as one kind, its declaration apart. -/
def UsageSet.ofKind (usages : UsageSet) : HighlightKind → List Span
  | .text => usages.text
  | .read => usages.reads
  | .write => usages.writes

/-- The references of a bucket are those of its kind, in their order. -/
theorem ofKind_classify (file : Uri) (references : List Reference)
    (detector : Option AccessDetector) (kind : HighlightKind) :
    (Usages.classify file references detector).ofKind kind =
      (references.filter (Usages.referenceKind detector · = kind)).map (·.range) := by
  cases detector with
  | none => cases kind <;> simp [Usages.classify, UsageSet.ofKind, Usages.referenceKind]
  | some detector =>
    cases kind with
    | text =>
      simp [Usages.classify, UsageSet.ofKind, Usages.referenceKind, Access.highlightKind_ne_text]
    | read =>
      simp only [Usages.classify, UsageSet.ofKind, Usages.referenceKind,
        ← Access.highlightKind_inj]
      rfl
    | write =>
      simp only [Usages.classify, UsageSet.ofKind, Usages.referenceKind,
        ← Access.highlightKind_inj]
      rfl

/-- What is divided by kind is in the three parts together, each entry once. -/
theorem divided_by_kind_perm {α : Type} (kindOf : α → HighlightKind) (entries : List α) :
    (entries.filter (kindOf · = .read) ++ entries.filter (kindOf · = .write) ++
      entries.filter (kindOf · = .text)).Perm entries := by
  have reads := List.filter_append_perm (kindOf · = .read) entries
  have others := List.filter_append_perm (kindOf · = .write)
    (entries.filter fun entry => !decide (kindOf entry = .read))
  have write (entry : α) :
      (decide (kindOf entry = .write) && !decide (kindOf entry = .read)) =
        decide (kindOf entry = .write) := by
    cases kindOf entry <;> rfl
  have text (entry : α) :
      ((!decide (kindOf entry = .write)) && !decide (kindOf entry = .read)) =
        decide (kindOf entry = .text) := by
    cases kindOf entry <;> rfl
  simp only [List.filter_filter, write, text] at others
  rw [List.append_assoc]
  exact (others.append_left _).trans reads

namespace Workspace

variable {workspace : Workspace} {file : Uri} {symbol : SymbolId}

/-! ## The sorted references -/

/-- One reference comes before another: it starts earlier, or it starts with it and is earlier in
the table. -/
def Precedes (first second : SymbolReference × Nat) : Prop :=
  first.1.range.start < second.1.range.start ∨
    first.1.range.start = second.1.range.start ∧ first.2 < second.2

/-- The references of a document to a symbol in a table, each with its place there. -/
def placedUses (references : List SymbolReference) (file : Uri) (symbol : SymbolId) :
    List (SymbolReference × Nat) :=
  references.zipIdx.filter fun entry => entry.1.uri = file && entry.1.targets.contains symbol

theorem placedUses_increasing (references : List SymbolReference) (file : Uri)
    (symbol : SymbolId) :
    (placedUses references file symbol).Pairwise fun first second => first.2 < second.2 :=
  (zipIdx_increasing references).filter _

theorem map_fst_placedUses (workspace : Workspace) (file : Uri) (symbol : SymbolId) :
    (placedUses workspace.references file symbol).map Prod.fst = workspace.usesIn file symbol := by
  rw [usesIn, ← List.zipIdx_map_fst 0 workspace.references, List.filter_map, List.zipIdx_map_fst]
  rfl

/-- The references of a document to a symbol by where they start, each with its place. -/
def sortedUses (workspace : Workspace) (file : Uri) (symbol : SymbolId) :
    List (SymbolReference × Nat) :=
  (placedUses workspace.references file symbol).mergeSort fun first second =>
    first.1.range.start ≤ second.1.range.start

theorem sortedUses_perm (workspace : Workspace) (file : Uri) (symbol : SymbolId) :
    (workspace.sortedUses file symbol).Perm (placedUses workspace.references file symbol) :=
  List.mergeSort_perm _ _

theorem sortedUses_precedes (workspace : Workspace) (file : Uri) (symbol : SymbolId) :
    (workspace.sortedUses file symbol).Pairwise Precedes :=
  pairwise_mergeSort_key (placedUses_increasing workspace.references file symbol)

/-- Sorted with their places or without them, the references are the same. -/
theorem usesByStart_eq_map (workspace : Workspace) (file : Uri) (symbol : SymbolId) :
    workspace.usesByStart file symbol =
      (workspace.sortedUses file symbol).map fun entry => ⟨file, entry.1.range⟩ := by
  rw [usesByStart, ← map_fst_placedUses, List.map_map]
  symm
  apply List.map_mergeSort
  intro first _ second _
  rfl

/-! ## The divided references -/

theorem ofKind_usagesOf (workspace : Workspace) (file : Uri) (symbol : SymbolId)
    (kind : HighlightKind) :
    (workspace.usagesOf file symbol).ofKind kind =
      ((workspace.sortedUses file symbol).filter fun entry =>
        workspace.useKind file symbol entry.1.range = kind).map (·.1.range) := by
  have bucket : (workspace.usagesOf file symbol).ofKind kind =
      (Usages.classify file (workspace.usesByStart file symbol)
        (workspace.accessDetector symbol)).ofKind kind := by
    cases kind <;> rfl
  rw [bucket, ofKind_classify, usesByStart_eq_map, List.filter_map, List.map_map]
  simp only [Function.comp_def, referenceKind_accessDetector]

theorem useKind_eq_text_iff {definition : SymbolDefinition}
    (known : workspace.symbol? symbol = some definition) (span : Span) :
    workspace.useKind file symbol span = .text ↔ definition.kind.tracksAccess = false := by
  rw [useKind, known, Option.any_some]
  by_cases tracks : definition.kind.tracksAccess = true
  · simp [tracks, Access.highlightKind_ne_text]
  · simp [tracks]

theorem usagesOf_perm (workspace : Workspace) (file : Uri) (symbol : SymbolId) :
    let usages := workspace.usagesOf file symbol
    (usages.reads ++ usages.writes ++ usages.text).Perm
      ((workspace.sortedUses file symbol).map (·.1.range)) := by
  intro usages
  have reads : usages.reads = _ := workspace.ofKind_usagesOf file symbol .read
  have writes : usages.writes = _ := workspace.ofKind_usagesOf file symbol .write
  have text : usages.text = _ := workspace.ofKind_usagesOf file symbol .text
  rw [reads, writes, text, ← List.map_append, ← List.map_append]
  exact (divided_by_kind_perm _ _).map _

/-- In a workspace whose index is ready, the references of a document to a declared symbol are found
by where they start: all of them, each once, and in the order of the table where they start at the
same offset. The usages of the symbol are these references again, each in one bucket and in the same
order: as a read or a write if the symbol is of a kind that is read and written, as plain text if
not. -/
theorem references_sorted_and_divided (changes : List Change) (file : Uri) (symbol : SymbolId)
    {definition : SymbolDefinition} (ready : (empty.run changes).ready = true)
    (known : (empty.run changes).symbol? symbol = some definition) :
    let workspace := empty.run changes
    ∃ (sorted : List (SymbolReference × Nat)) (usages : UsageSet),
      sorted.Perm (placedUses (changes.filterMap Change.reference?) file symbol) ∧
      sorted.Pairwise Precedes ∧
      workspace.engine.references symbol file =
        .ok (sorted.map fun entry => ⟨file, entry.1.range⟩) ∧
      Usages.ofSymbol workspace.engine file symbol = .ok usages ∧
      (usages.reads ++ usages.writes ++ usages.text).Perm (sorted.map (·.1.range)) ∧
      (∀ kind, usages.ofKind kind = (sorted.filter fun entry =>
        workspace.useKind file symbol entry.1.range = kind).map (·.1.range)) ∧
      ∀ span, workspace.useKind file symbol span = .text ↔
        definition.kind.tracksAccess = false := by
  intro workspace
  have indexed : workspace.Indexed := run_indexed empty_indexed changes
  have table : changes.filterMap Change.reference? = workspace.references :=
    (run_references empty changes).symm
  have found := indexed.referencesTo_eq file ready known
  rw [usesByStart_eq_map] at found
  rw [table]
  refine ⟨workspace.sortedUses file symbol, workspace.usagesOf file symbol, ?_, ?_, found, ?_⟩
  · exact workspace.sortedUses_perm file symbol
  · exact workspace.sortedUses_precedes file symbol
  · exact ⟨indexed.ofSymbol_eq file ready known, workspace.usagesOf_perm file symbol,
      workspace.ofKind_usagesOf file symbol, useKind_eq_text_iff known⟩

/-- A variable and its uses: two that start at the same offset, the longer one first, and two at the
same span behind them, the first of which was added before all others. One names the variable twice,
and one is in another document. -/
def crowdedChanges : List Change :=
  [.symbol (.ofName "x" .localVar ⟨"file:///a"⟩ 8),
    .reference { uri := ⟨"file:///a"⟩, range := ⟨4, 5⟩, targets := [.ofIndex 0] },
    .reference { uri := ⟨"file:///a"⟩, range := ⟨0, 2⟩, targets := [.ofIndex 0, .ofIndex 0] },
    .reference { uri := ⟨"file:///b"⟩, range := ⟨0, 1⟩, targets := [.ofIndex 0] },
    .reference
      { uri := ⟨"file:///a"⟩, range := ⟨0, 1⟩, targets := [.ofIndex 0], access := .write },
    .reference { uri := ⟨"file:///a"⟩, range := ⟨4, 5⟩, targets := [.ofIndex 1, .ofIndex 0] }]

/-- The four uses in the one document are all found, and each is a read or a write. -/
theorem references_sorted_and_divided_crowded :
    let workspace := empty.run crowdedChanges
    workspace.ready = true ∧
      workspace.symbol? (.ofIndex 0) = some (.ofName "x" .localVar ⟨"file:///a"⟩ 8) ∧
      ∃ (sorted : List (SymbolReference × Nat)) (usages : UsageSet),
        sorted.length = 4 ∧ sorted.Pairwise Precedes ∧
        workspace.engine.references (.ofIndex 0) ⟨"file:///a"⟩ =
          .ok (sorted.map fun entry => ⟨⟨"file:///a"⟩, entry.1.range⟩) ∧
        Usages.ofSymbol workspace.engine ⟨"file:///a"⟩ (.ofIndex 0) = .ok usages ∧
        (usages.reads ++ usages.writes).Perm (sorted.map (·.1.range)) := by
  intro workspace
  have ready : workspace.ready = true := by decide
  have known : workspace.symbol? (.ofIndex 0) =
      some (.ofName "x" .localVar ⟨"file:///a"⟩ 8) := by decide
  obtain ⟨sorted, usages, all, ordered, found, success, divided, kinds, text⟩ :=
    references_sorted_and_divided crowdedChanges ⟨"file:///a"⟩ (.ofIndex 0) ready known
  have none : usages.text = [] := by
    refine (kinds .text).trans (List.map_eq_nil_iff.mpr (List.filter_eq_nil_iff.mpr ?_))
    intro entry _ plain
    exact Bool.noConfusion ((text entry.1.range).mp (of_decide_eq_true plain))
  rw [none, List.append_nil] at divided
  exact ⟨ready, known, sorted, usages, all.length_eq.trans (by decide), ordered, found, success,
    divided⟩

end Workspace

end CodeBridge

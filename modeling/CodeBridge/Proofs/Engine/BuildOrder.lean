import CodeBridge.Proofs.Engine.Tables

/-! # The order of building

A workspace is built by additions to five tables. Each table only sees its own additions, so it does
not matter how those to different tables are interleaved: a reference may come long before the
declarations that it means. The index of references is no exception, as the table of references
alone decides about it (`run_derived`), and neither are the numbers of the declarations, which only
count the declarations before them (`issued_eq`).
-/

namespace CodeBridge

/-- The index that a table of references has, entry by entry. -/
def ReferenceIndex.ofTable (references : List SymbolReference) : ReferenceIndex :=
  references.zipIdx.foldl (fun index entry => index.insert entry.1.uri entry.2) {}

theorem ReferenceIndex.ofTable_concat (references : List SymbolReference)
    (reference : SymbolReference) :
    ofTable (references ++ [reference]) =
      (ofTable references).insert reference.uri references.length := by
  simp [ofTable, List.zipIdx_append]

namespace Workspace

/-! ## The index -/

/-- The index of references is the one that their table has. -/
def Derived (workspace : Workspace) : Prop :=
  workspace.referenceIndex = .ofTable workspace.references

theorem empty_derived : empty.Derived := rfl

theorem apply_derived {workspace : Workspace} (derived : workspace.Derived) (change : Change) :
    (workspace.apply change).Derived := by
  cases change with
  | reference reference =>
    change workspace.referenceIndex.insert reference.uri workspace.references.length = _
    rw [derived]
    exact (ReferenceIndex.ofTable_concat ..).symm
  | _ => exact derived

theorem run_derived {workspace : Workspace} (derived : workspace.Derived)
    (changes : List Change) : (workspace.run changes).Derived := by
  induction changes generalizing workspace with
  | nil => exact derived
  | cons change rest ih => exact ih (apply_derived derived change)

/-! ## Numbers of declarations -/

/-- The numbers that the declarations of a run get, in the order in which they are added. -/
def issued (workspace : Workspace) : List Change → List SymbolId
  | [] => []
  | change :: rest =>
    (change.symbol?.map fun _ => workspace.nextSymbol).toList ++
      (workspace.apply change).issued rest

/-- The numbers go on from those of the declarations that are there, whatever else is added. -/
theorem issued_eq (workspace : Workspace) (changes : List Change) :
    workspace.issued changes =
      (List.range' workspace.symbols.length (changes.filterMap Change.symbol?).length).map
        .ofIndex := by
  induction changes generalizing workspace with
  | nil => rfl
  | cons change rest ih =>
    rw [issued, ih]
    cases change with
    | symbol definition => simp [Change.symbol?, apply, addSymbol, nextSymbol, List.range'_succ]
    | _ => rfl

/-! ## Interleavings -/

/-- Two runs make the same additions to each of the five tables, in the same order. Between
additions to different tables no order is given. -/
structure SameAdditions (first second : List Change) : Prop where
  documents : first.filterMap Change.document? = second.filterMap Change.document?
  symbols : first.filterMap Change.symbol? = second.filterMap Change.symbol?
  references : first.filterMap Change.reference? = second.filterMap Change.reference?
  highlighters : first.filterMap Change.highlighter? = second.filterMap Change.highlighter?
  completions : first.filterMap Change.completion? = second.filterMap Change.completion?

theorem SameAdditions.sameTables {first second : List Change}
    (same : SameAdditions first second) : (empty.run first).SameTables (empty.run second) := by
  have documents : (empty.run first).documents = (empty.run second).documents := by
    -- This table has its newest entry first.
    apply List.reverse_injective
    rw [run_documents, run_documents, same.documents]
  have symbols : (empty.run first).symbols = (empty.run second).symbols := by
    rw [run_symbols, run_symbols, same.symbols]
  have references : (empty.run first).references = (empty.run second).references := by
    rw [run_references, run_references, same.references]
  have index : (empty.run first).referenceIndex = (empty.run second).referenceIndex := by
    rw [run_derived empty_derived first, run_derived empty_derived second, references]
  have highlighters : (empty.run first).highlighters = (empty.run second).highlighters := by
    rw [run_highlighters, run_highlighters, same.highlighters]
  have completions : (empty.run first).completions = (empty.run second).completions := by
    rw [run_completions, run_completions, same.completions]
  refine ⟨(empty.run second).ready, (empty.run second).featureUses, ?_⟩
  rw [documents, symbols, references, index, highlighters, completions]

/-- A run that does not speak of readiness leaves a new workspace ready. -/
theorem setReady_run_of_silent {changes : List Change}
    (silent : ∀ change ∈ changes, change.ready? = none) :
    (empty.run changes).setReady true = empty.run changes := by
  have ready : (empty.run changes).ready = true := by
    rw [run_ready, List.filterMap_eq_nil_iff.mpr silent]
    rfl
  rw [← ready]
  rfl

/-- Runs that make the same additions to each table build the same workspace, however the additions
are interleaved. The declarations get the same numbers, and at the same readiness every question has
the same answer. Runs that only add entries both end up ready. -/
theorem build_independent_of_interleaving {first second : List Change}
    (same : SameAdditions first second) :
    empty.issued first = empty.issued second ∧
    (∀ ready, ((empty.run first).setReady ready).engine =
      ((empty.run second).setReady ready).engine) ∧
    ((∀ change ∈ first ++ second, change.ready? = none) →
      (empty.run first).engine = (empty.run second).engine) := by
  obtain ⟨_, _, tables⟩ := same.sameTables
  have engines : ∀ ready, ((empty.run first).setReady ready).engine =
      ((empty.run second).setReady ready).engine := by
    intro ready
    rw [tables]
    rfl
  refine ⟨?_, engines, ?_⟩
  · rw [issued_eq, issued_eq, same.symbols]
  · intro silent
    obtain ⟨silent, silent'⟩ := List.forall_mem_append.mp silent
    rw [← setReady_run_of_silent silent, ← setReady_run_of_silent silent', engines]

/-- A variable and what refers to it, the document and the declaration first. -/
def declaredFirst : List Change :=
  [.document { uri := ⟨"file:///a"⟩, text := "x y x" },
    .symbol (.ofName "x" .localVar ⟨"file:///a"⟩ 0),
    .symbol (.ofName "y" .localVar ⟨"file:///a"⟩ 2),
    .reference { uri := ⟨"file:///b"⟩, range := ⟨0, 1⟩, targets := [.ofIndex 1] },
    .reference { uri := ⟨"file:///a"⟩, range := ⟨4, 5⟩, targets := [.ofIndex 0] },
    .highlighter { uri := ⟨"file:///b"⟩, trigger := ⟨0, 1⟩ },
    .completion ⟨"file:///a"⟩ { rawLabel := "x", declaration := .other },
    .document { uri := ⟨"file:///b"⟩, text := "y", host := some ⟨"file:///a"⟩ }]

/-- The same with the references first, to declarations and in documents that are still to come. -/
def referredFirst : List Change :=
  [.reference { uri := ⟨"file:///b"⟩, range := ⟨0, 1⟩, targets := [.ofIndex 1] },
    .completion ⟨"file:///a"⟩ { rawLabel := "x", declaration := .other },
    .reference { uri := ⟨"file:///a"⟩, range := ⟨4, 5⟩, targets := [.ofIndex 0] },
    .symbol (.ofName "x" .localVar ⟨"file:///a"⟩ 0),
    .document { uri := ⟨"file:///a"⟩, text := "x y x" },
    .highlighter { uri := ⟨"file:///b"⟩, trigger := ⟨0, 1⟩ },
    .document { uri := ⟨"file:///b"⟩, text := "y", host := some ⟨"file:///a"⟩ },
    .symbol (.ofName "y" .localVar ⟨"file:///a"⟩ 2)]

theorem build_independent_of_interleaving_forward :
    SameAdditions declaredFirst referredFirst ∧
      empty.issued referredFirst = [.ofIndex 0, .ofIndex 1] ∧
      (empty.run declaredFirst).engine = (empty.run referredFirst).engine ∧
      (empty.run referredFirst).engine.resolve ⟨⟨"file:///a"⟩, ⟨4, 5⟩⟩ =
        .ok (some (.ofIndex 0)) := by
  have same : SameAdditions declaredFirst referredFirst := ⟨rfl, rfl, rfl, rfl, rfl⟩
  have silent : ∀ change ∈ declaredFirst ++ referredFirst, change.ready? = none := by decide
  obtain ⟨numbers, -, engines⟩ := build_independent_of_interleaving same
  refine ⟨same, numbers.symm.trans rfl, engines silent, ?_⟩
  rw [← engines silent]
  rfl

end Workspace

end CodeBridge

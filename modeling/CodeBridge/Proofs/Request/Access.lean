import CodeBridge.Proofs.Engine.Lookup
import CodeBridge.Request.Usages
import CodeBridge.Snapshot.Basic
import Mathlib.Data.List.Perm.Basic

/-! # Reads and writes

The references to a symbol are divided into reads and writes after they have been found, when only
the place of each is left. What stands at that place is then looked up again, whatever it refers to,
so every reference does what the first one of the document at the same span does.

Nothing is lost that way: each reference to the symbol is in one of the two buckets. The buckets are
those of the accesses that the references came with exactly if no reference to the symbol stands
behind one at the same span that does something else.
-/

namespace CodeBridge

/-- The spans of a set that do one thing. -/
def UsageSet.bucket (usages : UsageSet) : Access → List Span
  | .read => usages.reads
  | .write => usages.writes

namespace Workspace

variable {workspace : Workspace} {file : Uri} {symbol : SymbolId}

/-- The references of a document to a symbol. -/
def usesIn (workspace : Workspace) (file : Uri) (symbol : SymbolId) : List SymbolReference :=
  workspace.references.filter fun entry => entry.uri = file && entry.targets.contains symbol

theorem mem_usesIn {entry : SymbolReference} : entry ∈ workspace.usesIn file symbol ↔
    entry ∈ workspace.references ∧ entry.uri = file ∧ symbol ∈ entry.targets := by
  simp only [usesIn, List.mem_filter, Bool.and_eq_true, decide_eq_true_eq, List.contains_iff_mem]

/-- What the first reference of a document at a span does. -/
def firstAccess (workspace : Workspace) (file : Uri) (span : Span) : Option Access :=
  (workspace.references.find? fun entry => entry.uri = file && entry.range = span).map (·.access)

/-- The spans of a document's references to a symbol that came with an access. -/
def registered (workspace : Workspace) (file : Uri) (symbol : SymbolId) (access : Access) :
    List Span :=
  ((workspace.usesIn file symbol).filter (·.access = access)).map (·.range)

/-- The spans of a document's references to a symbol at which the first reference does `access`. -/
def classified (workspace : Workspace) (file : Uri) (symbol : SymbolId) (access : Access) :
    List Span :=
  ((workspace.usesIn file symbol).filter
    (workspace.firstAccess file ·.range = some access)).map (·.range)

/-! ## Looking the access up -/

theorem Indexed.entryOf (indexed : workspace.Indexed) (reference : Reference) :
    workspace.entryOf reference =
      workspace.references.find? fun entry =>
        entry.uri = reference.uri && entry.range = reference.range := by
  rw [Workspace.entryOf, indexed.referencesIn, List.find?_filter]
  simp only [decide_eq_true_eq, Bool.decide_and]

/-- At the span of a reference something stands, so its access is never a guess. -/
theorem exists_firstAccess {entry : SymbolReference}
    (member : entry ∈ workspace.usesIn file symbol) :
    ∃ access, workspace.firstAccess file entry.range = some access := by
  obtain ⟨listed, here, -⟩ := mem_usesIn.mp member
  rw [← Option.isSome_iff_exists, firstAccess, Option.isSome_map, List.find?_isSome]
  exact ⟨entry, listed, by simp [here]⟩

theorem Indexed.referenceAccess_eq_iff (indexed : workspace.Indexed) {entry : SymbolReference}
    (member : entry ∈ workspace.usesIn file symbol) (access : Access) :
    workspace.referenceAccess ⟨file, entry.range⟩ = access ↔
      workspace.firstAccess file entry.range = some access := by
  obtain ⟨first, found⟩ := exists_firstAccess member
  have same : workspace.referenceAccess ⟨file, entry.range⟩ =
      (workspace.firstAccess file entry.range).getD .read := by
    rw [referenceAccess, indexed.entryOf]
    rfl
  rw [same, found]
  simp

/-! ## The buckets -/

theorem Indexed.uses_eq (indexed : workspace.Indexed) (file : Uri) (symbol : SymbolId) :
    (workspace.referencesIn file).filter (·.targets.contains symbol) =
      workspace.usesIn file symbol := by
  rw [indexed.referencesIn, List.filter_filter, usesIn]
  refine List.filter_congr fun entry _ => ?_
  rw [Bool.and_comm]

/-- The places of a document's references to a symbol, by where they start. -/
def usesByStart (workspace : Workspace) (file : Uri) (symbol : SymbolId) : List Reference :=
  ((workspace.usesIn file symbol).map fun entry => (⟨file, entry.range⟩ : Reference)).mergeSort
    fun a b => a.range.start ≤ b.range.start

theorem usesByStart_perm (workspace : Workspace) (file : Uri) (symbol : SymbolId) :
    (workspace.usesByStart file symbol).Perm
      ((workspace.usesIn file symbol).map fun entry => ⟨file, entry.range⟩) :=
  List.mergeSort_perm _ _

/-- While the index is ready, a declared symbol has its references in a document. -/
theorem Indexed.referencesTo_eq (indexed : workspace.Indexed) (file : Uri)
    (ready : workspace.ready = true) {definition : SymbolDefinition}
    (known : workspace.symbol? symbol = some definition) :
    workspace.referencesTo symbol file = .ok (workspace.usesByStart file symbol) := by
  have handles : (workspace.usesIn file symbol).map
      (fun entry => (⟨entry.uri, entry.range⟩ : Reference)) =
      (workspace.usesIn file symbol).map fun entry => ⟨file, entry.range⟩ := by
    refine List.map_congr_left fun entry member => ?_
    rw [(mem_usesIn.mp member).2.1]
  rw [usesByStart, ← handles, ← indexed.uses_eq, referencesTo, requireIndex_eq_ok ready, ok_bind,
    checkSymbol_eq_ok known, ok_bind]
  rfl

/-- The usages of a symbol in a document: its references, divided if it is read and written, and its
name if it is declared there. -/
def usagesOf (workspace : Workspace) (file : Uri) (symbol : SymbolId) : UsageSet :=
  { Usages.classify file (workspace.usesByStart file symbol) (workspace.accessDetector symbol) with
    declaration := (workspace.nameRange file symbol).map
      (·, Usages.declarationKind (workspace.accessDetector symbol)) }

theorem Indexed.ofSymbol_eq (indexed : workspace.Indexed) (file : Uri)
    (ready : workspace.ready = true) {definition : SymbolDefinition}
    (known : workspace.symbol? symbol = some definition) :
    Usages.ofSymbol workspace.engine file symbol = .ok (workspace.usagesOf file symbol) := by
  change (workspace.referencesTo symbol file >>= _) = _
  rw [indexed.referencesTo_eq file ready known]
  rfl

/-- References that are divided in any order end up in the same buckets. -/
theorem Indexed.bucket_classify_perm (indexed : workspace.Indexed) {references : List Reference}
    (found : references.Perm
      ((workspace.usesIn file symbol).map fun entry => ⟨file, entry.range⟩))
    (declarationWrites : Bool) (access : Access) :
    ((Usages.classify file references
      (some ⟨workspace.referenceAccess, declarationWrites⟩)).bucket access).Perm
      (workspace.classified file symbol access) := by
  have bucket : (Usages.classify file references
      (some ⟨workspace.referenceAccess, declarationWrites⟩)).bucket access =
      (references.filter (workspace.referenceAccess · = access)).map (·.range) := by
    cases access <;> rfl
  have same : ∀ entry ∈ workspace.usesIn file symbol,
      decide (workspace.referenceAccess ⟨file, entry.range⟩ = access) =
        decide (workspace.firstAccess file entry.range = some access) := by
    intro entry member
    rw [decide_eq_decide]
    exact indexed.referenceAccess_eq_iff member access
  rw [bucket]
  refine ((found.filter _).map _).trans (.of_eq ?_)
  rw [List.filter_map, List.map_map, classified, ← List.filter_congr same]
  rfl

theorem accessDetector_of_tracksAccess {definition : SymbolDefinition}
    (known : workspace.symbol? symbol = some definition)
    (tracks : definition.kind.tracksAccess = true) :
    workspace.accessDetector symbol =
      some ⟨workspace.referenceAccess, definition.declarationWrites⟩ := by
  rw [accessDetector, known]
  exact if_pos tracks

theorem Indexed.exists_ofSymbol (indexed : workspace.Indexed) (file : Uri) (symbol : SymbolId)
    (ready : workspace.ready = true) {definition : SymbolDefinition}
    (known : workspace.symbol? symbol = some definition)
    (tracks : definition.kind.tracksAccess = true) :
    ∃ usages, Usages.ofSymbol workspace.engine file symbol = .ok usages ∧ usages.text = [] ∧
      ∀ access, (usages.bucket access).Perm (workspace.classified file symbol access) := by
  have perm := workspace.usesByStart_perm file symbol
  have detector := accessDetector_of_tracksAccess known tracks
  refine ⟨_, indexed.ofSymbol_eq file ready known, ?_, ?_⟩
  · rw [usagesOf, detector]
    rfl
  · intro access
    rw [usagesOf, detector]
    -- The name of the declaration is in no bucket.
    have bucket := indexed.bucket_classify_perm perm definition.declarationWrites access
    cases access with
    | read => exact bucket
    | write => exact bucket

theorem classified_read_append_write_perm (workspace : Workspace) (file : Uri)
    (symbol : SymbolId) :
    (workspace.classified file symbol .read ++ workspace.classified file symbol .write).Perm
      ((workspace.usesIn file symbol).map (·.range)) := by
  have rest : workspace.classified file symbol .write =
      ((workspace.usesIn file symbol).filter fun entry =>
        !decide (workspace.firstAccess file entry.range = some .read)).map (·.range) := by
    refine congrArg (List.map _) (List.filter_congr fun entry member => ?_)
    obtain ⟨access, found⟩ := exists_firstAccess member
    rw [found]
    cases access <;> rfl
  rw [rest, classified, ← List.map_append]
  exact (List.filter_append_perm _ _).map _

/-- The accesses agree with those of the first references at the same spans exactly if they put the
same spans into each bucket. -/
theorem classified_perm_registered_iff : (∀ access, (workspace.classified file symbol access).Perm
      (workspace.registered file symbol access)) ↔
    ∀ entry ∈ workspace.usesIn file symbol,
      workspace.firstAccess file entry.range = some entry.access := by
  constructor
  · intro perm entry member
    -- The span is registered with the access of its entry, so some entry at it was put there.
    have there : entry.range ∈ workspace.registered file symbol entry.access :=
      List.mem_map_of_mem (List.mem_filter.mpr ⟨member, decide_eq_true rfl⟩)
    obtain ⟨other, kept, same⟩ := List.mem_map.mp ((perm entry.access).mem_iff.mpr there)
    rw [← same]
    exact of_decide_eq_true (List.mem_filter.mp kept).2
  · intro first access
    refine .of_eq (congrArg (List.map _) (List.filter_congr fun entry member => ?_))
    rw [first entry member]
    simp

/-- In a workspace whose index is ready, the references of a document to a declared symbol that is
read and written are divided into two buckets, each reference by what the first one at its span
does. No reference is lost and none is counted twice. The buckets hold what the references came with
exactly if each reference does what the first one at its span does. -/
theorem ofSymbol_divides_by_first (changes : List Change) (file : Uri) (symbol : SymbolId)
    {definition : SymbolDefinition} (ready : (empty.run changes).ready = true)
    (known : (empty.run changes).symbol? symbol = some definition)
    (tracks : definition.kind.tracksAccess = true) :
    let workspace := empty.run changes
    ∃ usages, Usages.ofSymbol workspace.engine file symbol = .ok usages ∧
      usages.text = [] ∧
      (∀ access, (usages.bucket access).Perm (workspace.classified file symbol access)) ∧
      (usages.reads ++ usages.writes).Perm ((workspace.usesIn file symbol).map (·.range)) ∧
      ((∀ access, (usages.bucket access).Perm (workspace.registered file symbol access)) ↔
        ∀ entry ∈ workspace.usesIn file symbol,
          workspace.firstAccess file entry.range = some entry.access) := by
  intro workspace
  have indexed : workspace.Indexed := run_indexed empty_indexed changes
  obtain ⟨usages, success, text, buckets⟩ := indexed.exists_ofSymbol file symbol ready known tracks
  refine ⟨usages, success, text, buckets, ?_, ?_⟩
  · exact ((buckets .read).append (buckets .write)).trans
      (workspace.classified_read_append_write_perm file symbol)
  · rw [← classified_perm_registered_iff]
    refine forall_congr' fun access => ⟨?_, ?_⟩
    · exact (buckets access).symm.trans
    · exact (buckets access).trans

end Workspace

/-- Two variables in a document. The second is read at its front, the first at its end and written
at the given span. -/
def Snapshot.readsAndWrite (written : Span) : Snapshot where
  documents := [{ uri := ⟨"file:///a"⟩, text := "x y x" }]
  symbols := [.ofName "x" .localVar ⟨"file:///a"⟩ 0, .ofName "y" .localVar ⟨"file:///a"⟩ 2]
  references :=
    [{ uri := ⟨"file:///a"⟩, range := ⟨0, 1⟩, targets := [.ofIndex 1] },
      { uri := ⟨"file:///a"⟩, range := ⟨4, 5⟩, targets := [.ofIndex 0] },
      { uri := ⟨"file:///a"⟩, range := written, targets := [.ofIndex 0], access := .write }]

theorem ofSymbol_divides_by_first_apart :
    let workspace := Workspace.empty.run (Snapshot.readsAndWrite ⟨0, 2⟩).changes
    ∃ usages, workspace.ready = true ∧
      (workspace.symbol? (.ofIndex 0)).map (·.kind.tracksAccess) = some true ∧
      Usages.ofSymbol workspace.engine ⟨"file:///a"⟩ (.ofIndex 0) = .ok usages ∧
      usages.reads.Perm [⟨4, 5⟩] ∧ usages.writes.Perm [⟨0, 2⟩] := by
  intro workspace
  obtain ⟨usages, success, -, -, -, exactly⟩ :=
    Workspace.ofSymbol_divides_by_first (Snapshot.readsAndWrite ⟨0, 2⟩).changes ⟨"file:///a"⟩
      (.ofIndex 0) rfl rfl rfl
  have buckets := exactly.mpr (by decide)
  exact ⟨usages, rfl, rfl, success, buckets .read, buckets .write⟩

/-- A variable that is written where another is read counts as read there, and not as written. -/
theorem ofSymbol_divides_by_first_shared :
    let workspace := Workspace.empty.run (Snapshot.readsAndWrite ⟨0, 1⟩).changes
    ∃ usages, workspace.ready = true ∧
      (workspace.symbol? (.ofIndex 0)).map (·.kind.tracksAccess) = some true ∧
      Usages.ofSymbol workspace.engine ⟨"file:///a"⟩ (.ofIndex 0) = .ok usages ∧
      ¬usages.writes.Perm (workspace.registered ⟨"file:///a"⟩ (.ofIndex 0) .write) := by
  intro workspace
  have indexed : workspace.Indexed := Workspace.run_indexed Workspace.empty_indexed _
  obtain ⟨usages, success, -, buckets⟩ :=
    indexed.exists_ofSymbol ⟨"file:///a"⟩ (.ofIndex 0) rfl rfl rfl
  refine ⟨usages, rfl, rfl, success, fun writes => ?_⟩
  have classified := (buckets .write).symm.trans writes
  revert classified
  decide

end CodeBridge

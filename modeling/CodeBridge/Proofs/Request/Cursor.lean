import CodeBridge.Proofs.Request.Occurrences
import Mathlib.Data.List.Forall2

/-! # What stands at the cursor

Three strategies look for the symbols that a cursor is about, and each of them goes by spans. All
that they find is one list that can be read off the tables, `Workspace.subjectPlaces`: the first
declaration whose name is there, else the targets of the first reference there. The usages at the
cursor are one set for each entry of this list, in its order.

The entry that was found at the cursor is then among the occurrences of what it stands for, so the
place of the cursor itself is always shown: a declaration is found again by its number, a reference
by any of its targets.

Nothing but that list matters. Two cursors of a document that are about the same symbols have the
same highlights, or the same failure, even if they come to the symbols by different strategies; so a
use is highlighted as the declaration that it means.
-/

namespace CodeBridge

/-- At positions with the same usages, the same is shown. -/
theorem documentHighlight_eq_of_find_eq {engine : Engine} {uri : Uri} {position other : Position}
    {offset offset' : Nat} (located : offsetIn engine uri position = .ok offset)
    (located' : offsetIn engine uri other = .ok offset')
    (same : Usages.find engine uri offset = Usages.find engine uri offset') :
    documentHighlight engine uri position = documentHighlight engine uri other := by
  simp only [documentHighlight, located, located', same]

namespace Workspace

variable {workspace : Workspace} {uri : Uri} {offset : Nat}

/-- Places in the table of the declarations that the cursor is about: that of the first declaration
whose name is there, else those of all targets of the first reference there. -/
def subjectPlaces (workspace : Workspace) (uri : Uri) (offset : Nat) : List Nat :=
  match workspace.declaredAt uri offset with
  | some (_, place) => [place]
  | none =>
    match workspace.references.find? fun entry =>
        entry.uri = uri && entry.range.contains offset with
    | some entry => entry.targets.map SymbolId.index
    | none => []

/-- No highlight region of a document is triggered at an offset. -/
def Unmarked (workspace : Workspace) (uri : Uri) (offset : Nat) : Prop :=
  ∀ region ∈ workspace.highlighters, region.uri = uri → region.trigger.contains offset = false

instance (workspace : Workspace) (uri : Uri) (offset : Nat) :
    Decidable (workspace.Unmarked uri offset) :=
  inferInstanceAs (Decidable (∀ region ∈ workspace.highlighters, _))

theorem Unmarked.regionAt (unmarked : workspace.Unmarked uri offset) :
    workspace.regionAt uri offset = none := by
  rw [Workspace.regionAt, List.find?_eq_none]
  intro region member triggered
  rw [Bool.and_eq_true, decide_eq_true_eq] at triggered
  obtain ⟨here, inside⟩ := triggered
  rw [unmarked region member here] at inside
  cases inside

/-! ## The declaration or the reference that is found -/

section Found

variable {definition : SymbolDefinition} {place : Nat}

theorem subjectsAt_of_declaredAt
    (found : workspace.declaredAt uri offset = some (definition, place)) :
    workspace.subjectsAt uri offset = [.ofIndex place] := by
  rw [subjectsAt, declarationAt_of_declaredAt found]

/-- A declaration whose name is in a document has that name there. -/
theorem nameRange_of_declaredAt (distinct : workspace.symbols.length ≤ UInt32.size)
    (found : workspace.declaredAt uri offset = some (definition, place)) :
    workspace.nameRange uri (.ofIndex place) = definition.nameRange := by
  have here := (SymbolDefinition.covers_iff.mp (covers_of_declaredAt found)).1
  rw [nameRange, symbol?_of_declaredAt distinct found]
  exact if_pos here

theorem subjectsAt_of_not_declaredAt (absent : workspace.declaredAt uri offset = none) :
    workspace.subjectsAt uri offset =
      ((workspace.references.find? fun entry =>
        entry.uri = uri && entry.range.contains offset).map (·.targets)).getD [] := by
  rw [subjectsAt, declarationAt_of_not_declaredAt absent]

/-- A reference that is found in a document is a use there of each of its targets. -/
theorem mem_usesIn_of_find? {entry : SymbolReference} {target : SymbolId}
    (first : workspace.references.find? (fun entry =>
      entry.uri = uri && entry.range.contains offset) = some entry)
    (listed : target ∈ entry.targets) : entry ∈ workspace.usesIn uri target := by
  have passes := List.find?_some first
  simp only [Bool.and_eq_true, decide_eq_true_eq] at passes
  exact mem_usesIn.mpr ⟨List.mem_of_find?_eq_some first, passes.1, listed⟩

end Found

/-- The symbols that the cursor is about are numbered by their places. -/
theorem map_index_subjectsAt (distinct : workspace.symbols.length ≤ UInt32.size) (uri : Uri)
    (offset : Nat) :
    (workspace.subjectsAt uri offset).map SymbolId.index = workspace.subjectPlaces uri offset := by
  unfold subjectPlaces
  cases found : workspace.declaredAt uri offset with
  | some entry =>
    obtain ⟨definition, place⟩ := entry
    have bound : place < workspace.symbols.length :=
      (List.getElem?_eq_some_iff.mp (declaredAt_eq_some_iff.mp found).2).1
    rw [subjectsAt_of_declaredAt found, List.map_singleton, SymbolId.index_ofIndex (by omega)]
  | none =>
    rw [subjectsAt_of_not_declaredAt found]
    cases workspace.references.find? fun entry =>
        entry.uri = uri && entry.range.contains offset with
    | some entry => rfl
    | none => rfl

/-! ## Usages -/

/-- Without a region, no feature is counted on the way to the usages. -/
theorem find_eq_of_unmarked (complete : workspace.Complete)
    (unmarked : workspace.Unmarked uri offset) :
    Usages.find workspace.engine uri offset = ⟨[], .ok ((workspace.subjectsAt uri offset).map
      (workspace.usagesOf (workspace.topLevelFile uri)))⟩ := by
  have answer := complete.find_eq unmarked.regionAt
  rw [complete.indexed.find_eq_mapM complete.ready unmarked.regionAt] at answer ⊢
  exact congrArg (Traced.mk []) answer

/-- The usages that are found for a symbol are of the document that they are looked for in. -/
theorem Complete.ofSymbol_of_mem_subjectsAt (complete : workspace.Complete) (file : Uri)
    {symbol : SymbolId} (about : symbol ∈ workspace.subjectsAt uri offset) :
    (workspace.usagesOf file symbol).file = file ∧
      Usages.ofSymbol workspace.engine file symbol = .ok (workspace.usagesOf file symbol) := by
  obtain ⟨definition, known⟩ := (has_iff_symbol? symbol).mp (complete.linked.subjectsAt_has about)
  exact ⟨file_usagesOf workspace file symbol,
    complete.indexed.ofSymbol_eq file complete.ready known⟩

/-- Where no region is triggered, the usages at an offset are one set for each declaration that the
cursor is about, in their order. Each set is that of its symbol, in the document at hand or in the
one that it is injected into, and no feature is counted. -/
theorem find_one_set_per_subject {changes : List Change}
    (ready : (empty.run changes).ready = true)
    (numbered : (empty.run changes).symbols.length < UInt32.size)
    (linked : (empty.run changes).Linked) {uri : Uri} {offset : Nat}
    (unmarked : (empty.run changes).Unmarked uri offset) :
    let workspace := empty.run changes
    ∃ symbols sets, symbols.map SymbolId.index = workspace.subjectPlaces uri offset ∧
      Usages.find workspace.engine uri offset = ⟨[], .ok sets⟩ ∧
      List.Forall₂ (fun symbol usages => usages.file = workspace.topLevelFile uri ∧
        Usages.ofSymbol workspace.engine (workspace.topLevelFile uri) symbol = .ok usages)
        symbols sets := by
  intro workspace
  have complete : workspace.Complete := ⟨ready, run_indexed empty_indexed changes, linked⟩
  refine ⟨workspace.subjectsAt uri offset,
    (workspace.subjectsAt uri offset).map (workspace.usagesOf (workspace.topLevelFile uri)),
    map_index_subjectsAt (Nat.le_of_lt numbered) uri offset,
    find_eq_of_unmarked complete unmarked, ?_⟩
  rw [List.forall₂_map_right_iff, List.forall₂_same]
  intro symbol about
  exact complete.ofSymbol_of_mem_subjectsAt _ about

/-- A document with a variable and a method, and one that is injected into it. A reference of each
may mean the method, the variable, and the method again; a region covers none of them. -/
def ambiguousChanges : List Change :=
  [.document { uri := ⟨"file:///a"⟩, text := "x f\nx = f" },
    .document { uri := ⟨"file:///a#1"⟩, text := "f", host := some ⟨"file:///a"⟩ },
    .symbol (.ofName "x" .localVar ⟨"file:///a"⟩ 0),
    .symbol (.ofName "f" .method ⟨"file:///a"⟩ 2),
    .reference
      { uri := ⟨"file:///a"⟩, range := ⟨4, 5⟩, targets := [.ofIndex 0], access := .write },
    .reference
      { uri := ⟨"file:///a"⟩, range := ⟨8, 9⟩, targets := [.ofIndex 1, .ofIndex 0, .ofIndex 1] },
    .reference
      { uri := ⟨"file:///a#1"⟩, range := ⟨0, 1⟩, targets := [.ofIndex 1, .ofIndex 0, .ofIndex 1] },
    .highlighter { uri := ⟨"file:///a"⟩, trigger := ⟨5, 8⟩, writes := [⟨4, 5⟩] }]

/-- In the injected document, each of the three targets has its usages in the document around it. -/
theorem find_one_set_per_subject_ambiguous :
    let workspace := empty.run ambiguousChanges
    workspace.ready = true ∧ workspace.symbols.length < UInt32.size ∧ workspace.Linked ∧
      workspace.Unmarked ⟨"file:///a#1"⟩ 0 ∧
      ∃ sets, Usages.find workspace.engine ⟨"file:///a#1"⟩ 0 = ⟨[], .ok sets⟩ ∧
        sets.length = 3 ∧ ∀ usages ∈ sets, usages.file = ⟨"file:///a"⟩ := by
  intro workspace
  have ready : workspace.ready = true := by decide
  have numbered : workspace.symbols.length < UInt32.size := by decide
  have linked : workspace.Linked := by decide
  have unmarked : workspace.Unmarked ⟨"file:///a#1"⟩ 0 := by decide
  obtain ⟨symbols, sets, places, found, each⟩ :=
    find_one_set_per_subject ready numbered linked unmarked
  refine ⟨ready, numbered, linked, unmarked, sets, found, ?_, ?_⟩
  · have count := congrArg List.length places
    rw [List.length_map, each.length_eq] at count
    exact count.trans (by decide)
  · exact ((List.forall₂_and_left _ _).mp each.flip).1

/-! ## Highlights -/

theorem topLevelFile_of_document? {document : Document}
    (held : workspace.document? uri = some document) (whole : document.host = none) :
    workspace.topLevelFile uri = uri := by
  rw [topLevelFile, held, Option.bind_some, whole]
  rfl

/-- In a document that is not injected, all occurrences of what the cursor is about are shown. -/
theorem Complete.exists_shows_occurrencesAt (complete : workspace.Complete) {document : Document}
    (held : workspace.document? uri = some document) (whole : document.host = none)
    {position : Position}
    (located : (LineIndex.ofText document.text).offset position = .ok offset)
    (unmarked : workspace.Unmarked uri offset) :
    ∃ highlights, (documentHighlight workspace.engine uri position).answer = .ok highlights ∧
      ∀ occurrence ∈ workspace.occurrencesAt uri offset,
        occurrence.shownIn (.ofText document.text) ∈ highlights := by
  have top := topLevelFile_of_document? held whole
  have started := offsetIn_eq_ok held located
  have opens : (workspace.document? (workspace.topLevelFile uri)).isSome := by
    rw [top, held]
    rfl
  have success := (complete.documentHighlight_eq_ok_iff started unmarked.regionAt).mpr
    ⟨.inr opens, rfl⟩
  obtain ⟨occurrences, -, listed, shown⟩ :=
    complete.exists_occurrences started unmarked.regionAt success
  refine ⟨_, success, fun occurrence member => ?_⟩
  have index : workspace.engine.lineIndex (workspace.topLevelFile uri) = .ofText document.text := by
    simp only [Engine.lineIndex, engine, top, held, Option.map_some, Option.getD_some]
  rw [shown, index]
  exact List.mem_map_of_mem ((listed occurrence).mpr member)

/-- The name of the declaration over an offset is one of the occurrences there. -/
theorem name_mem_occurrencesAt (distinct : workspace.symbols.length ≤ UInt32.size)
    (top : workspace.topLevelFile uri = uri) {definition : SymbolDefinition} {place : Nat}
    {name : Span} (found : workspace.declaredAt uri offset = some (definition, place))
    (named : definition.nameRange = some name) :
    ⟨uri, name, workspace.nameKind (.ofIndex place)⟩ ∈ workspace.occurrencesAt uri offset := by
  rw [occurrencesAt, subjectsAt_of_declaredAt found, top, List.flatMap_singleton,
    mem_occurrences_usagesOf]
  exact .inr ⟨name, (nameRange_of_declaredAt distinct found).trans named, rfl⟩

/-- A reference over an offset, with no declaration there, is an occurrence of each of its targets. -/
theorem use_mem_occurrencesAt (top : workspace.topLevelFile uri = uri) {entry : SymbolReference}
    {target : SymbolId} (absent : workspace.declaredAt uri offset = none)
    (first : workspace.references.find? (fun entry =>
      entry.uri = uri && entry.range.contains offset) = some entry)
    (listed : target ∈ entry.targets) :
    ⟨uri, entry.range, workspace.useKind uri target entry.range⟩ ∈
      workspace.occurrencesAt uri offset := by
  rw [occurrencesAt, subjectsAt_of_not_declaredAt absent, first, top]
  refine List.mem_flatMap.mpr ⟨target, listed, ?_⟩
  rw [mem_occurrences_usagesOf]
  exact .inl ⟨entry, mem_usesIn_of_find? first listed, rfl⟩

/-- In a document that is not injected, a request at a position without a highlight region succeeds
and shows what the cursor is on: the name of the first declaration there, as what the declaration
does; and where there is none, the first reference there, as what it does to each of its targets. -/
theorem documentHighlight_shows_cursor {changes : List Change}
    (ready : (empty.run changes).ready = true)
    (numbered : (empty.run changes).symbols.length < UInt32.size)
    (linked : (empty.run changes).Linked) {uri : Uri} {document : Document}
    (held : (empty.run changes).document? uri = some document) (whole : document.host = none)
    {position : Position} {offset : Nat}
    (located : (LineIndex.ofText document.text).offset position = .ok offset)
    (unmarked : (empty.run changes).Unmarked uri offset) :
    let workspace := empty.run changes
    let index := LineIndex.ofText document.text
    ∃ highlights, (documentHighlight workspace.engine uri position).answer = .ok highlights ∧
      match workspace.declaredAt uri offset with
      | some (definition, place) =>
        ∃ name, definition.nameRange = some name ∧ name.contains offset = true ∧
          ⟨index.range name, workspace.nameKind (.ofIndex place)⟩ ∈ highlights
      | none =>
        ∀ entry, workspace.references.find? (fun entry =>
            entry.uri = uri && entry.range.contains offset) = some entry →
          ∀ target ∈ entry.targets,
            ⟨index.range entry.range, workspace.useKind uri target entry.range⟩ ∈ highlights := by
  intro workspace index
  have complete : workspace.Complete := ⟨ready, run_indexed empty_indexed changes, linked⟩
  have top := topLevelFile_of_document? held whole
  obtain ⟨highlights, success, shows⟩ :=
    complete.exists_shows_occurrencesAt held whole located unmarked
  refine ⟨highlights, success, ?_⟩
  cases found : workspace.declaredAt uri offset with
  | some declared =>
    obtain ⟨definition, place⟩ := declared
    obtain ⟨-, name, named, inside⟩ := SymbolDefinition.covers_iff.mp (covers_of_declaredAt found)
    have member := name_mem_occurrencesAt (Nat.le_of_lt numbered) top found named
    have shown := shows _ member
    exact ⟨name, named, inside, shown⟩
  | none =>
    intro entry first target listed
    have member := use_mem_occurrencesAt top found first listed
    -- Elaborated on its own: against the goal, the occurrence would be sought by unfolding.
    have shown := shows _ member
    exact shown

/-- A use that may be of a method or of a variable is shown as plain text and as a read. -/
theorem documentHighlight_shows_cursor_ambiguous :
    let workspace := empty.run ambiguousChanges
    workspace.ready = true ∧ workspace.symbols.length < UInt32.size ∧ workspace.Linked ∧
      workspace.Unmarked ⟨"file:///a"⟩ 8 ∧
      ∃ highlights,
        (documentHighlight workspace.engine ⟨"file:///a"⟩ ⟨1, 4⟩).answer = .ok highlights ∧
        ⟨⟨⟨1, 4⟩, ⟨1, 5⟩⟩, .text⟩ ∈ highlights ∧ ⟨⟨⟨1, 4⟩, ⟨1, 5⟩⟩, .read⟩ ∈ highlights := by
  intro workspace
  have ready : workspace.ready = true := by decide
  have numbered : workspace.symbols.length < UInt32.size := by decide
  have linked : workspace.Linked := by decide
  have unmarked : workspace.Unmarked ⟨"file:///a"⟩ 8 := by decide
  have held : workspace.document? ⟨"file:///a"⟩ =
      some { uri := ⟨"file:///a"⟩, text := "x f\nx = f" } := by decide
  have located : (LineIndex.ofText "x f\nx = f").offset ⟨1, 4⟩ = .ok 8 := by decide
  obtain ⟨highlights, success, shows⟩ :=
    documentHighlight_shows_cursor ready numbered linked held rfl located unmarked
  have asMethod := shows _ rfl (.ofIndex 1) (by decide)
  have asVariable := shows _ rfl (.ofIndex 0) (by decide)
  exact ⟨ready, numbered, linked, unmarked, highlights, success, asMethod, asVariable⟩

/-! ## Declarations and their uses -/

/-- Where the cursor is about one declared symbol alone, the usages are those of the symbol. -/
theorem Indexed.find_eq_singleton (indexed : workspace.Indexed) (ready : workspace.ready = true)
    (unmarked : workspace.Unmarked uri offset) {symbol : SymbolId} {definition : SymbolDefinition}
    (known : workspace.symbol? symbol = some definition)
    (about : workspace.subjectsAt uri offset = [symbol]) :
    Usages.find workspace.engine uri offset =
      ⟨[], .ok [workspace.usagesOf (workspace.topLevelFile uri) symbol]⟩ := by
  rw [indexed.find_eq_mapM ready unmarked.regionAt, about, List.mapM_cons,
    indexed.ofSymbol_eq _ ready known]
  rfl

/-- A reference that means one symbol and the name of that symbol's declaration are highlighted
alike. The first is found by going to what it means and the second by its place, and both cursors
have the usages of the symbol, in their document or in the one that it is injected into. Whatever
comes of them is then the same, a failure for want of the latter document included. -/
theorem documentHighlight_use_eq_declaration {changes : List Change}
    (ready : (empty.run changes).ready = true) {uri : Uri} {document : Document}
    (held : (empty.run changes).document? uri = some document) {used declared : Position}
    {use name : Nat} (locatedUse : (LineIndex.ofText document.text).offset used = .ok use)
    (locatedName : (LineIndex.ofText document.text).offset declared = .ok name)
    (unmarkedUse : (empty.run changes).Unmarked uri use)
    (unmarkedName : (empty.run changes).Unmarked uri name)
    {symbol : SymbolId} {entry : SymbolReference} {definition : SymbolDefinition}
    (undeclared : ∀ definition ∈ (empty.run changes).symbols, definition.covers uri use = false)
    (first : (empty.run changes).references.find? (fun entry =>
      entry.uri = uri && entry.range.contains use) = some entry)
    (single : entry.targets = [symbol])
    (found : (empty.run changes).declaredAt uri name = some (definition, symbol.index)) :
    let workspace := empty.run changes
    (∃ usages, Usages.ofSymbol workspace.engine (workspace.topLevelFile uri) symbol = .ok usages ∧
      Usages.find workspace.engine uri use = ⟨[], .ok [usages]⟩ ∧
      Usages.find workspace.engine uri name = ⟨[], .ok [usages]⟩) ∧
    documentHighlight workspace.engine uri used =
      documentHighlight workspace.engine uri declared := by
  intro workspace
  have indexed : workspace.Indexed := run_indexed empty_indexed changes
  have known : workspace.symbol? symbol = some definition := (declaredAt_eq_some_iff.mp found).2
  have absent : workspace.declaredAt uri use = none := by
    rw [declaredAt_eq_none_iff, List.findIdx?_eq_none_iff]
    exact undeclared
  have aboutUse : workspace.subjectsAt uri use = [symbol] := by
    rw [subjectsAt_of_not_declaredAt absent, first, Option.map_some, single]
    rfl
  have aboutName : workspace.subjectsAt uri name = [symbol] := by
    rw [subjectsAt_of_declaredAt found, SymbolId.ofIndex_index]
  have findUse := indexed.find_eq_singleton ready unmarkedUse known aboutUse
  have findName := indexed.find_eq_singleton ready unmarkedName known aboutName
  refine ⟨⟨_, indexed.ofSymbol_eq _ ready known, findUse, findName⟩, ?_⟩
  exact documentHighlight_eq_of_find_eq (offsetIn_eq_ok held locatedUse)
    (offsetIn_eq_ok held locatedName) (findUse.trans findName.symm)

/-- The variable is highlighted alike where it is assigned to and where it is declared. -/
theorem documentHighlight_use_eq_declaration_assigned :
    let workspace := empty.run ambiguousChanges
    workspace.ready = true ∧ workspace.Unmarked ⟨"file:///a"⟩ 4 ∧
      workspace.Unmarked ⟨"file:///a"⟩ 0 ∧
      (∀ definition ∈ workspace.symbols, definition.covers ⟨"file:///a"⟩ 4 = false) ∧
      documentHighlight workspace.engine ⟨"file:///a"⟩ ⟨1, 0⟩ =
        documentHighlight workspace.engine ⟨"file:///a"⟩ ⟨0, 0⟩ := by
  intro workspace
  have ready : workspace.ready = true := by decide
  have unmarkedUse : workspace.Unmarked ⟨"file:///a"⟩ 4 := by decide
  have unmarkedName : workspace.Unmarked ⟨"file:///a"⟩ 0 := by decide
  have undeclared :
      ∀ definition ∈ workspace.symbols, definition.covers ⟨"file:///a"⟩ 4 = false := by decide
  have held : workspace.document? ⟨"file:///a"⟩ =
      some { uri := ⟨"file:///a"⟩, text := "x f\nx = f" } := by decide
  have locatedUse : (LineIndex.ofText "x f\nx = f").offset ⟨1, 0⟩ = .ok 4 := by decide
  have locatedName : (LineIndex.ofText "x f\nx = f").offset ⟨0, 0⟩ = .ok 0 := by decide
  have found : workspace.declaredAt ⟨"file:///a"⟩ 0 =
      some (.ofName "x" .localVar ⟨"file:///a"⟩ 0, (SymbolId.ofIndex 0).index) := by decide
  have alike := documentHighlight_use_eq_declaration ready held locatedUse locatedName
    unmarkedUse unmarkedName undeclared rfl rfl found
  exact ⟨ready, unmarkedUse, unmarkedName, undeclared, alike.2⟩

end Workspace

end CodeBridge

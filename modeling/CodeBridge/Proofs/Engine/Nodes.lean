import CodeBridge.Proofs.Engine.Lookup

/-! # Nodes over an offset

The node over an offset is an identifier, or the whole document where there is none. An identifier is
handed on as no more than its span, and what it stands in is looked up by that span. The answer is
still what the offset decides, and it can be read off the tables (`Workspace.StandsIn`): the first
declaration whose name is there, or nothing in particular where there is a reference only.

A node stands in one of lower depth, so the way up from any node of a document ends, and it does so
at the document itself (`Workspace.ClimbsTo`). None of this depends on the index, and none of it can
fail: every number that a look-up gives is that of a declaration.
-/

namespace CodeBridge

/-- How many nodes a node stands in. -/
def NodeKind.depth : NodeKind → Nat
  | .file => 0
  | .methodDeclaration _ | .declaration _ | .other => 1
  | .identifier => 2

namespace Workspace

variable {workspace : Workspace} {uri : Uri} {offset : Nat}

/-! ## What the tables have over an offset -/

/-- A declaration of the document has its name over the offset. -/
def Declared (workspace : Workspace) (uri : Uri) (offset : Nat) : Prop :=
  ∃ definition ∈ workspace.symbols, definition.covers uri offset = true

instance (workspace : Workspace) (uri : Uri) (offset : Nat) :
    Decidable (workspace.Declared uri offset) :=
  inferInstanceAs (Decidable (∃ definition ∈ workspace.symbols, _))

/-- A reference of the document is over the offset. -/
def Referenced (workspace : Workspace) (uri : Uri) (offset : Nat) : Prop :=
  ∃ reference ∈ workspace.references, reference.uri = uri ∧
    reference.range.contains offset = true

instance (workspace : Workspace) (uri : Uri) (offset : Nat) :
    Decidable (workspace.Referenced uri offset) :=
  inferInstanceAs (Decidable (∃ reference ∈ workspace.references, _))

/-- Which kind of node the one over an offset stands in, or that it stands in none. -/
def StandsIn (workspace : Workspace) (uri : Uri) (offset : Nat) : Option NodeKind → Prop
  | some (.methodDeclaration id) => ∃ definition,
    workspace.declaredAt uri offset = some (definition, id.index) ∧ definition.kind = .method
  | some (.declaration id) => ∃ definition,
    workspace.declaredAt uri offset = some (definition, id.index) ∧ definition.kind ≠ .method
  | some .other => ¬workspace.Declared uri offset ∧ workspace.Referenced uri offset
  | some .file | some .identifier => False
  | none => ¬workspace.Declared uri offset ∧ ¬workspace.Referenced uri offset

theorem declaredAt_eq_none_iff_not_declared :
    workspace.declaredAt uri offset = none ↔ ¬workspace.Declared uri offset := by
  rw [declaredAt_eq_none_iff, List.findIdx?_eq_none_iff]
  simp only [Declared, not_exists, not_and, Bool.not_eq_true]

theorem Indexed.referenceOver_eq_none_iff (indexed : workspace.Indexed) :
    workspace.referenceOver uri offset = none ↔ ¬workspace.Referenced uri offset := by
  rw [indexed.referenceOver, List.find?_eq_none]
  simp only [Bool.and_eq_true, decide_eq_true_eq, Referenced, not_exists, not_and]

/-- The kind of node that the look-ups give, one after the other. -/
def kindAround (workspace : Workspace) (uri : Uri) (offset : Nat) : Option NodeKind :=
  match workspace.declaredAt uri offset with
  | some (definition, place) =>
    some (if definition.kind = .method then .methodDeclaration (.ofIndex place)
      else .declaration (.ofIndex place))
  | none => (workspace.referenceOver uri offset).map fun _ => .other

theorem kindAround_of_not_declared (absent : ¬workspace.Declared uri offset) :
    workspace.kindAround uri offset = (workspace.referenceOver uri offset).map fun _ => .other := by
  rw [kindAround, declaredAt_eq_none_iff_not_declared.mpr absent]

theorem Indexed.standsIn_kindAround (indexed : workspace.Indexed)
    (distinct : workspace.symbols.length ≤ UInt32.size) :
    workspace.StandsIn uri offset (workspace.kindAround uri offset) := by
  unfold kindAround
  cases found : workspace.declaredAt uri offset with
  | some entry =>
    obtain ⟨definition, place⟩ := entry
    have bound := (List.getElem?_eq_some_iff.mp (declaredAt_eq_some_iff.mp found).2).1
    have again : workspace.declaredAt uri offset =
        some (definition, (SymbolId.ofIndex place).index) := by
      rw [SymbolId.index_ofIndex (by omega), found]
    by_cases method : definition.kind = .method
    · simp only [method, ↓reduceIte]
      exact ⟨definition, again, method⟩
    · simp only [method, ↓reduceIte]
      exact ⟨definition, again, method⟩
  | none =>
    have absent := declaredAt_eq_none_iff_not_declared.mp found
    cases reference : workspace.referenceOver uri offset with
    | some entry =>
      refine ⟨absent, ?_⟩
      by_contra unreferenced
      rw [indexed.referenceOver_eq_none_iff.mpr unreferenced] at reference
      cases reference
    | none => exact ⟨absent, indexed.referenceOver_eq_none_iff.mp reference⟩

theorem Indexed.kindAround_of_standsIn (indexed : workspace.Indexed) {kind : Option NodeKind}
    (stands : workspace.StandsIn uri offset kind) : workspace.kindAround uri offset = kind := by
  match kind, stands with
  | some (.methodDeclaration id), ⟨definition, found, method⟩ =>
    simp only [kindAround, found, method, ↓reduceIte, SymbolId.ofIndex_index]
  | some (.declaration id), ⟨definition, found, other⟩ =>
    simp only [kindAround, found, other, ↓reduceIte, SymbolId.ofIndex_index]
  | some .other, ⟨absent, referenced⟩ =>
    rw [kindAround_of_not_declared absent]
    cases reference : workspace.referenceOver uri offset with
    | some entry => rfl
    | none => exact absurd referenced (indexed.referenceOver_eq_none_iff.mp reference)
  | none, ⟨absent, unreferenced⟩ =>
    rw [kindAround_of_not_declared absent, indexed.referenceOver_eq_none_iff.mpr unreferenced]
    rfl

/-! ## The node over an offset -/

/-- The node over an offset is an identifier of the document or the document itself. -/
theorem elementAt_cases {node : SyntaxNode}
    (found : workspace.elementAt uri offset = .ok (some node)) :
    (∃ range, node = ⟨uri, range, .identifier⟩) ∨ workspace.fileNode uri = some node := by
  unfold elementAt at found
  split at found
  · cases found
  · obtain ⟨range, -, found⟩ := bind_eq_ok_iff.mp found
    cases range with
    | some range =>
      cases found
      exact .inl ⟨range, rfl⟩
    | none => exact .inr (Except.ok.inj found)

theorem fileNode_of_document? {document : Document}
    (held : workspace.document? uri = some document) :
    workspace.fileNode uri = some ⟨uri, ⟨0, Text.unitLength document.text⟩, .file⟩ := by
  rw [fileNode, held, Option.map_some]

theorem identifierAt_of_not_declaredAt (absent : workspace.declaredAt uri offset = none) :
    workspace.identifierAt uri offset =
      .ok ((workspace.referenceOver uri offset).map (·.range)) := by
  simp only [identifierAt, declarationAt_of_not_declaredAt absent]
  rfl

/-- What the name of a declaration stands in. -/
theorem declarationKind_eq_ok {id : SymbolId} {definition : SymbolDefinition}
    (known : workspace.symbol? id = some definition) :
    workspace.declarationKind id = .ok
      (if definition.kind = .method then .methodDeclaration id else .declaration id) := by
  simp only [declarationKind, checkSymbol_eq_ok known, ok_bind]
  rfl

section Around

variable (held : (workspace.document? uri).isSome)
include held

/-- On the name of a declaration, the node over the offset stands in that very declaration. -/
theorem parent_elementAt_of_declaredAt (distinct : workspace.symbols.length ≤ UInt32.size)
    {definition : SymbolDefinition} {index : Nat}
    (found : workspace.declaredAt uri offset = some (definition, index)) :
    ∃ element range, workspace.elementAt uri offset = .ok (some element) ∧
      workspace.parent element = .ok (some ⟨uri, range,
        if definition.kind = .method then .methodDeclaration (.ofIndex index)
        else .declaration (.ofIndex index)⟩) := by
  obtain ⟨document, held⟩ := Option.isSome_iff_exists.mp held
  obtain ⟨-, range, named, inside⟩ := SymbolDefinition.covers_iff.mp (covers_of_declaredAt found)
  have known := symbol?_of_declaredAt distinct found
  refine ⟨⟨uri, range, .identifier⟩, range, ?_, ?_⟩
  · have identifier : workspace.identifierAt uri offset = .ok (some range) := by
      rw [identifierAt, declarationAt_of_declaredAt found]
      simp only [checkSymbol_eq_ok known, ok_bind, named]
      rfl
    simp only [elementAt, held, identifier, ok_bind]
    rfl
  · simp only [parent, declarationNamed_of_declaredAt found named inside,
      declarationKind_eq_ok known, ok_bind]
    rfl

/-- On a reference, where no declaration has its name, the node over the offset stands in no
declaration. -/
theorem parent_elementAt_of_referenceOver (absent : workspace.declaredAt uri offset = none)
    {entry : SymbolReference} (found : workspace.referenceOver uri offset = some entry) :
    ∃ element, workspace.elementAt uri offset = .ok (some element) ∧
      workspace.parent element = .ok (some ⟨uri, entry.range, .other⟩) := by
  obtain ⟨document, held⟩ := Option.isSome_iff_exists.mp held
  refine ⟨⟨uri, entry.range, .identifier⟩, ?_, ?_⟩
  · simp only [elementAt, held, identifierAt_of_not_declaredAt absent, found, ok_bind]
    rfl
  · have inside := contains_of_referenceOver found
    simp only [parent, declarationNamed_of_not_declaredAt absent inside]

/-- Elsewhere the node over the offset is the document, which stands in nothing. -/
theorem parent_elementAt_of_not_referenceOver (absent : workspace.declaredAt uri offset = none)
    (unreferenced : workspace.referenceOver uri offset = none) :
    ∃ element, workspace.elementAt uri offset = .ok (some element) ∧
      workspace.parent element = .ok none := by
  obtain ⟨document, held⟩ := Option.isSome_iff_exists.mp held
  refine ⟨⟨uri, ⟨0, Text.unitLength document.text⟩, .file⟩, ?_, rfl⟩
  simp only [elementAt, held, identifierAt_of_not_declaredAt absent, unreferenced, ok_bind,
    fileNode_of_document? held]
  rfl

/-- Where no declaration stands, the node over the offset stands in no declaration. -/
theorem parent_elementAt_of_not_declaredAt (absent : workspace.declaredAt uri offset = none) :
    ∃ element, workspace.elementAt uri offset = .ok (some element) ∧
      (workspace.parent element = .ok none ∨
        ∃ range, workspace.parent element = .ok (some ⟨uri, range, .other⟩)) := by
  cases reference : workspace.referenceOver uri offset with
  | none =>
    obtain ⟨element, atOffset, above⟩ :=
      parent_elementAt_of_not_referenceOver held absent reference
    exact ⟨element, atOffset, .inl above⟩
  | some entry =>
    obtain ⟨element, atOffset, above⟩ := parent_elementAt_of_referenceOver held absent reference
    exact ⟨element, atOffset, .inr ⟨entry.range, above⟩⟩

/-- The node over an offset stands in what the look-ups by offset give. -/
theorem exists_parent_elementAt (distinct : workspace.symbols.length ≤ UInt32.size)
    (offset : Nat) :
    ∃ element around, workspace.elementAt uri offset = .ok (some element) ∧
      workspace.parent element = .ok around ∧
      around.map (·.kind) = workspace.kindAround uri offset := by
  unfold kindAround
  cases found : workspace.declaredAt uri offset with
  | some entry =>
    obtain ⟨definition, place⟩ := entry
    obtain ⟨element, range, atOffset, above⟩ := parent_elementAt_of_declaredAt held distinct found
    exact ⟨element, _, atOffset, above, rfl⟩
  | none =>
    cases reference : workspace.referenceOver uri offset with
    | some entry =>
      obtain ⟨element, atOffset, above⟩ := parent_elementAt_of_referenceOver held found reference
      exact ⟨element, _, atOffset, above, rfl⟩
    | none =>
      obtain ⟨element, atOffset, above⟩ :=
        parent_elementAt_of_not_referenceOver held found reference
      exact ⟨element, _, atOffset, above, rfl⟩

end Around

/-! ## The way up -/

/-- The way up from a node leads to another, which stands in nothing. -/
inductive ClimbsTo (workspace : Workspace) : SyntaxNode → SyntaxNode → Prop where
  | top {node : SyntaxNode} : workspace.parent node = .ok none → ClimbsTo workspace node node
  | up {inner outer top : SyntaxNode} : workspace.parent inner = .ok (some outer) →
    ClimbsTo workspace outer top → ClimbsTo workspace inner top

/-- One step up. A node that is not the document stands in one of its document that has one node less
around it. -/
theorem exists_parent {node file : SyntaxNode} (whole : workspace.fileNode node.uri = some file)
    (within : node.kind ≠ .file) :
    ∃ outer, workspace.parent node = .ok (some outer) ∧ outer.uri = node.uri ∧
      outer.kind.depth + 1 = node.kind.depth ∧ (outer.kind = .file → outer = file) := by
  obtain ⟨document, -, made⟩ := Option.map_eq_some_iff.mp whole
  have inDocument : ∃ outer,
      (.ok (workspace.fileNode node.uri) : Except EngineError _) = .ok (some outer) ∧
      outer.uri = node.uri ∧ outer.kind.depth + 1 = 1 ∧ (outer.kind = .file → outer = file) := by
    rw [whole, ← made]
    exact ⟨_, rfl, rfl, rfl, fun _ => rfl⟩
  unfold parent
  cases above : node.kind with
  | file => exact absurd above within
  | identifier =>
    cases named : workspace.declarationNamed node.uri node.range with
    | some id =>
      obtain ⟨definition, known⟩ := (has_iff_symbol? id).mp (declarationNamed_has named)
      simp only [declarationKind_eq_ok known, ok_bind]
      refine ⟨_, rfl, rfl, ?_⟩
      split
      · exact ⟨rfl, nofun⟩
      · exact ⟨rfl, nofun⟩
    | none => exact ⟨{ node with kind := .other }, rfl, rfl, rfl, nofun⟩
  | methodDeclaration id => exact inDocument
  | declaration id => exact inDocument
  | other => exact inDocument

/-- All the way up, from any node of a document that is there. -/
theorem climbsTo_fileNode {node file : SyntaxNode}
    (whole : workspace.fileNode node.uri = some file) (proper : node.kind = .file → node = file) :
    workspace.ClimbsTo node file := by
  induction depth : node.kind.depth generalizing node with
  | zero =>
    have outermost : node.kind = .file := by
      by_contra within
      obtain ⟨outer, -, -, lower, -⟩ := exists_parent whole within
      omega
    have nothing : workspace.parent node = .ok none := by rw [parent, outermost]
    obtain rfl := proper outermost
    exact .top nothing
  | succ depth ih =>
    have within : node.kind ≠ .file := by
      intro outermost
      rw [outermost] at depth
      cases depth
    obtain ⟨outer, above, here, lower, outermost⟩ := exists_parent whole within
    refine .up above (ih ?_ outermost ?_)
    · rw [here, whole]
    · omega

/-- In a document that is there, the node over an offset is found, and so is what it stands in, if
anything: the first declaration whose name is over the offset, as a method or as another
declaration; else, and if a reference is over the offset, something that is neither; else nothing.
The way up from the node leads to the whole document, and no further. -/
theorem parent_elementAt_follows_tables {changes : List Change}
    (numbered : (empty.run changes).symbols.length < UInt32.size) {uri : Uri} {document : Document}
    (held : (empty.run changes).document? uri = some document) (offset : Nat) :
    let workspace := empty.run changes
    ∃ element around, workspace.elementAt uri offset = .ok (some element) ∧
      workspace.parent element = .ok around ∧
      (∀ kind, around.map (·.kind) = kind ↔ workspace.StandsIn uri offset kind) ∧
      workspace.ClimbsTo element ⟨uri, ⟨0, Text.unitLength document.text⟩, .file⟩ := by
  intro workspace
  have indexed : workspace.Indexed := run_indexed empty_indexed changes
  have distinct : workspace.symbols.length ≤ UInt32.size := Nat.le_of_lt numbered
  have whole := fileNode_of_document? held
  obtain ⟨element, around, atOffset, above, kinds⟩ :=
    exists_parent_elementAt (Option.isSome_of_eq_some held) distinct offset
  refine ⟨element, around, atOffset, above, fun kind => ?_, ?_⟩
  · rw [kinds]
    constructor
    · rintro rfl
      exact indexed.standsIn_kindAround distinct
    · exact indexed.kindAround_of_standsIn
  · rcases elementAt_cases atOffset with ⟨range, rfl⟩ | same
    · exact climbsTo_fileNode whole nofun
    · obtain rfl := Option.some.inj (whole.symm.trans same)
      exact climbsTo_fileNode whole fun _ => rfl

/-- A document where a method and a class have their names at one span and a variable has its name
across its end, a reference at that span and one across the end of the other. Before them all comes a
class of another document. -/
def overlappingChanges : List Change :=
  [.document { uri := ⟨"file:///a"⟩, text := "run x ;" },
    .symbol (.ofName "run" .classType ⟨"file:///b"⟩ 0),
    .symbol (.ofName "run" .method ⟨"file:///a"⟩ 0),
    .symbol (.ofName "run" .classType ⟨"file:///a"⟩ 0),
    .symbol (.ofName "n x" .localVar ⟨"file:///a"⟩ 2),
    .reference { uri := ⟨"file:///a"⟩, range := ⟨0, 3⟩, targets := [.ofIndex 0] },
    .reference { uri := ⟨"file:///a"⟩, range := ⟨4, 6⟩, targets := [] }]

/-- Of the three names at 2 the method's comes first, at 4 only the variable's is left, at 5 there is
a reference and at 6 nothing. -/
theorem parent_elementAt_follows_tables_overlapping :
    let workspace := empty.run overlappingChanges
    workspace.symbols.length < UInt32.size ∧
      workspace.document? ⟨"file:///a"⟩ = some { uri := ⟨"file:///a"⟩, text := "run x ;" } ∧
      ∀ entry ∈ [(2, some (.methodDeclaration (.ofIndex 1))), (4, some (.declaration (.ofIndex 3))),
          (5, some .other), (6, none)],
        ∃ element around, workspace.elementAt ⟨"file:///a"⟩ entry.1 = .ok (some element) ∧
          workspace.parent element = .ok around ∧ around.map (·.kind) = entry.2 ∧
          workspace.ClimbsTo element ⟨⟨"file:///a"⟩, ⟨0, 7⟩, .file⟩ := by
  intro workspace
  have numbered : workspace.symbols.length < UInt32.size := by decide
  have held : workspace.document? ⟨"file:///a"⟩ =
      some { uri := ⟨"file:///a"⟩, text := "run x ;" } := by decide
  refine ⟨numbered, held, ?_⟩
  rintro ⟨offset, kind⟩ member
  obtain ⟨element, around, atOffset, above, kinds, climbs⟩ :=
    parent_elementAt_follows_tables numbered held offset
  refine ⟨element, around, atOffset, above, (kinds kind).mpr ?_, climbs⟩
  simp only [List.mem_cons, List.not_mem_nil, or_false, Prod.mk.injEq] at member
  rcases member with ⟨rfl, rfl⟩ | ⟨rfl, rfl⟩ | ⟨rfl, rfl⟩ | ⟨rfl, rfl⟩
  · exact ⟨.ofName "run" .method ⟨"file:///a"⟩ 0, by decide, by decide⟩
  · exact ⟨.ofName "n x" .localVar ⟨"file:///a"⟩ 2, by decide, by decide⟩
  · exact ⟨by decide, by decide⟩
  · exact ⟨by decide, by decide⟩

end Workspace

end CodeBridge

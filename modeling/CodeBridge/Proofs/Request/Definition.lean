import CodeBridge.Proofs.Engine.Nodes
import CodeBridge.Proofs.Text.LineTable
import CodeBridge.Request.Definition

/-! # The definition at an offset

A request for a definition goes through handles, syntax nodes and strategies. What it finds in the
end can be read off the tables directly: `Workspace.targetAt` is the target of the first reference
over the offset, if that has just one, and `Workspace.overriddenAt` the method that is overridden by
the one whose name is there. The first of the two that is present is the definition.

The strategies agree with that on every workspace that a run of changes can build, while its index is
ready and its declarations can be numbered apart.
-/

namespace CodeBridge

namespace Workspace

/-- The target of the first reference over an offset, unless it has none or several. -/
def targetAt (workspace : Workspace) (uri : Uri) (offset : Nat) : Option SymbolId :=
  match workspace.references.find? fun entry => entry.uri = uri && entry.range.contains offset with
  | some ⟨_, _, [target], _⟩ => some target
  | _ => none

/-- The nearest super method of the first declaration whose name is over an offset, if that is a
method. A method does not override itself. -/
def overriddenAt (workspace : Workspace) (uri : Uri) (offset : Nat) : Option SymbolId :=
  match workspace.declaredAt uri offset with
  | some (definition, index) =>
    if definition.kind = .method then definition.superMethods.find? (· ≠ .ofIndex index) else none
  | none => none

/-- What the tables give as the definition at an offset. -/
def definitionAt (workspace : Workspace) (uri : Uri) (offset : Nat) : Option SymbolId :=
  (workspace.targetAt uri offset).or (workspace.overriddenAt uri offset)

variable {workspace : Workspace} {uri : Uri} {offset : Nat}

/-! ## Targets exist -/

theorem Linked.targetAt_has (linked : workspace.Linked) {target : SymbolId}
    (found : workspace.targetAt uri offset = some target) : workspace.Has target := by
  unfold targetAt at found
  split at found
  next entry first =>
    cases found
    exact linked.targets _ (List.mem_of_find?_eq_some first) _ (List.mem_singleton_self _)
  next => cases found

theorem Linked.overriddenAt_has (linked : workspace.Linked) {method : SymbolId}
    (found : workspace.overriddenAt uri offset = some method) : workspace.Has method := by
  unfold overriddenAt at found
  split at found
  next definition index declared =>
    have member : definition ∈ workspace.symbols :=
      List.mem_of_getElem? (declaredAt_eq_some_iff.mp declared).2
    split at found
    · exact linked.superMethods definition member method (List.mem_of_find?_eq_some found)
    · cases found
  next => cases found

theorem Linked.definitionAt_has (linked : workspace.Linked) {symbol : SymbolId}
    (found : workspace.definitionAt uri offset = some symbol) : workspace.Has symbol := by
  rcases Option.or_eq_some_iff.mp found with target | ⟨-, method⟩
  · exact linked.targetAt_has target
  · exact linked.overriddenAt_has method

/-! ## Strategies -/

theorem ofReference_eq_targetAt (indexed : workspace.Indexed) (ready : workspace.ready = true)
    (uri : Uri) (offset : Nat) :
    Definition.ofReference workspace.engine uri offset = .ok (workspace.targetAt uri offset) := by
  rw [targetAt, ← indexed.referenceOver]
  simp only [Definition.ofReference, engine, referenceAt, ok_bind]
  cases reference : workspace.referenceOver uri offset with
  | none => rfl
  | some entry =>
    simp only [Option.map_some, resolve, requireIndex_eq_ok ready, ok_bind,
      indexed.entryOf_referenceOver reference]
    obtain ⟨_, _, targets, _⟩ := entry
    rcases targets with _ | ⟨target, _ | ⟨another, rest⟩⟩
    · rfl
    · rfl
    · rfl

theorem superMethods_of_declaredAt (ready : workspace.ready = true)
    (distinct : workspace.symbols.length ≤ UInt32.size) {definition : SymbolDefinition}
    {index : Nat} (found : workspace.declaredAt uri offset = some (definition, index)) :
    workspace.superMethods (.ofIndex index) =
      .ok (definition.superMethods.filter (· ≠ .ofIndex index)) := by
  simp only [superMethods, requireIndex_eq_ok ready, ok_bind,
    checkSymbol_eq_ok (symbol?_of_declaredAt distinct found)]
  rfl

theorem ofSuperMethod_eq_overriddenAt (ready : workspace.ready = true)
    (distinct : workspace.symbols.length ≤ UInt32.size) (held : (workspace.document? uri).isSome)
    (offset : Nat) :
    Definition.ofSuperMethod workspace.engine uri offset =
      .ok (workspace.overriddenAt uri offset) := by
  unfold Definition.ofSuperMethod overriddenAt
  cases declared : workspace.declaredAt uri offset with
  | none =>
    obtain ⟨element, atOffset, above | ⟨range, above⟩⟩ :=
      parent_elementAt_of_not_declaredAt held declared
    · simp only [engine, atOffset, above, ok_bind]
      rfl
    · simp only [engine, atOffset, above, ok_bind]
      rfl
  | some entry =>
    obtain ⟨definition, index⟩ := entry
    obtain ⟨element, range, atOffset, above⟩ :=
      parent_elementAt_of_declaredAt held distinct declared
    by_cases method : definition.kind = .method
    · simp only [engine, atOffset, above, ok_bind, if_pos method,
        superMethods_of_declaredAt ready distinct declared, List.head?_filter]
      rfl
    · simp only [engine, atOffset, above, ok_bind, if_neg method]
      rfl

/-- The strategies, one after the other, find what the tables give. -/
theorem resolve_eq_definitionAt (indexed : workspace.Indexed) (ready : workspace.ready = true)
    (distinct : workspace.symbols.length ≤ UInt32.size) (held : (workspace.document? uri).isSome)
    (offset : Nat) :
    Definition.resolve workspace.engine uri offset =
      match workspace.definitionAt uri offset with
      | some symbol => .ok symbol
      | none => .error .noDefinition := by
  have found : Definition.firstOf workspace.engine uri offset Definition.strategies =
      .ok (workspace.definitionAt uri offset) := by
    simp only [Definition.strategies, Definition.firstOf, definitionAt,
      ofReference_eq_targetAt indexed ready,
      ofSuperMethod_eq_overriddenAt ready distinct held, ok_bind]
    cases workspace.targetAt uri offset with
    | some target => rfl
    | none =>
      cases workspace.overriddenAt uri offset with
      | some method => rfl
      | none => rfl
  simp only [Definition.resolve, found, liftEngine, Except.mapError, ok_bind]
  cases workspace.definitionAt uri offset with
  | some symbol => rfl
  | none => rfl

/-! ## The answer -/

/-- A declaration is shown as a point of its own document. -/
theorem locate_of_symbol {symbol : SymbolId} {definition : SymbolDefinition}
    (found : workspace.symbol? symbol = some definition) :
    locate workspace.engine symbol =
      match workspace.document? definition.location.uri with
      | some document =>
        let point :=
          (LineIndex.ofText document.text).positionOrOrigin definition.location.textOffset
        .ok ⟨definition.location.uri, ⟨point, point⟩⟩
      | none => .error (.documentNotFound definition.location.uri) := by
  simp only [locate, engine, symbolLocation, found, Option.map_some, openDocument]
  cases workspace.document? definition.location.uri with
  | some document => rfl
  | none => rfl

/-- At a position inside a document, the definition is what the tables give. It is shown where it is
declared, which fails only if that document is not there. -/
theorem gotoDefinition_follows_tables {workspace : Workspace} {changes : List Change}
    (built : empty.run changes = workspace) (ready : workspace.ready = true)
    (numbered : workspace.symbols.length < UInt32.size) (linked : workspace.Linked) {uri : Uri}
    {document : Document} (held : workspace.document? uri = some document) {position : Position}
    (inside : position.line.toNat ≤ (LineIndex.ofText document.text).lineCount) :
    ∃ offset, (LineIndex.ofText document.text).offset position = .ok offset ∧
      match workspace.definitionAt uri offset with
      | none => gotoDefinition workspace.engine uri position = .error .noDefinition
      | some symbol =>
        Definition.resolve workspace.engine uri offset = .ok symbol ∧
        ∃ definition, workspace.symbol? symbol = some definition ∧
          match workspace.document? definition.location.uri with
          | none =>
            gotoDefinition workspace.engine uri position =
              .error (.documentNotFound definition.location.uri)
          | some home =>
            let point := (LineIndex.ofText home.text).positionOrOrigin definition.location.textOffset
            gotoDefinition workspace.engine uri position =
              .ok [⟨definition.location.uri, ⟨point, point⟩⟩] := by
  have indexed : workspace.Indexed := built ▸ run_indexed empty_indexed changes
  obtain ⟨offset, success⟩ := (LineIndex.offset_isOk_iff _ position).mpr inside
  refine ⟨offset, success, ?_⟩
  have started : offsetIn workspace.engine uri position = .ok offset := by
    rw [offsetIn_of_document? held, success]
    rfl
  have resolved := resolve_eq_definitionAt indexed ready (Nat.le_of_lt numbered)
    (Option.isSome_of_eq_some held) offset
  cases found : workspace.definitionAt uri offset with
  | none =>
    simp only [found] at resolved
    simp only [gotoDefinition, started, ok_bind, resolved, error_bind]
  | some symbol =>
    simp only [found] at resolved
    obtain ⟨definition, known⟩ := (has_iff_symbol? symbol).mp (linked.definitionAt_has found)
    refine ⟨resolved, definition, known, ?_⟩
    have shown := locate_of_symbol known
    cases home : workspace.document? definition.location.uri with
    | none =>
      simp only [home] at shown
      simp only [gotoDefinition, started, ok_bind, resolved, shown, error_bind]
    | some document =>
      simp only [home] at shown
      simp only [gotoDefinition, started, ok_bind, resolved, shown]
      rfl

/-- A method that lists itself and one of another document as overridden. A class has the same name
range, and of the two references there the first is ambiguous. -/
def overridingChanges : List Change :=
  [.document { uri := ⟨"file:///a"⟩, text := "run()" },
    .document { uri := ⟨"file:///b"⟩, text := "base\nrun" },
    .symbol
      { name := "run", kind := .method, location := ⟨⟨"file:///a"⟩, some 0⟩
        nameRange := some ⟨0, 3⟩, superMethods := [.ofIndex 0, .ofIndex 1] },
    .symbol { name := "run", kind := .method, location := ⟨⟨"file:///b"⟩, some 5⟩ },
    .symbol
      { name := "run", kind := .classType, location := ⟨⟨"file:///a"⟩, some 0⟩
        nameRange := some ⟨0, 3⟩ },
    .reference { uri := ⟨"file:///a"⟩, range := ⟨0, 3⟩, targets := [.ofIndex 1, .ofIndex 2] },
    .reference { uri := ⟨"file:///a"⟩, range := ⟨0, 3⟩, targets := [.ofIndex 2] }]

theorem gotoDefinition_follows_tables_overriding :
    let workspace := empty.run overridingChanges
    workspace.ready = true ∧ workspace.symbols.length < UInt32.size ∧ workspace.Linked ∧
      gotoDefinition workspace.engine ⟨"file:///a"⟩ ⟨0, 1⟩ =
        .ok [⟨⟨"file:///b"⟩, ⟨⟨1, 0⟩, ⟨1, 0⟩⟩⟩] := by
  intro workspace
  have ready : workspace.ready = true := by decide
  have numbered : workspace.symbols.length < UInt32.size := by decide
  have linked : workspace.Linked := by decide
  have held : workspace.document? ⟨"file:///a"⟩ =
      some { uri := ⟨"file:///a"⟩, text := "run()" } := by decide
  have inside : (⟨0, 1⟩ : Position).line.toNat ≤ (LineIndex.ofText "run()").lineCount := by decide
  refine ⟨ready, numbered, linked, ?_⟩
  obtain ⟨offset, success, result⟩ :=
    gotoDefinition_follows_tables rfl ready numbered linked held inside
  obtain rfl : 1 = offset := Except.ok.inj ((by decide : _ = Except.ok 1).symm.trans success)
  obtain ⟨-, definition, known, shown⟩ := result
  cases known
  exact shown

end Workspace

end CodeBridge

import CodeBridge.Request.Completion
import Mathlib.Data.List.Forall2

/-! # What the entries of a list show

Candidates of a kind that is shown have one entry each, in their order. An entry goes by one name:
that of the declaration, or the label of the candidate if the declared name is empty. Its label, its
insert text and the documentation that is made up for it are all put together from that name, so
they cannot disagree on it.

A label comes out empty only where it is a name with nothing around it, which is so for classes and
packages. Only the call of a method adds anything to the insert text.
-/

namespace CodeBridge

/-! ## Texts -/

namespace Completion

/-- The first text that is not empty; the empty one if there is none. -/
def firstPresent (texts : List String) : String :=
  (texts.find? (· ≠ "")).getD ""

theorem firstPresent_cons (text : String) (rest : List String) :
    firstPresent (text :: rest) = if text = "" then firstPresent rest else text := by
  by_cases empty : text = ""
  · simp [firstPresent, empty]
  · simp [firstPresent, empty]

theorem firstPresent_eq_empty_iff {texts : List String} :
    firstPresent texts = "" ↔ ∀ text ∈ texts, text = "" := by
  induction texts with
  | nil => simp [firstPresent]
  | cons text rest ih =>
    rw [firstPresent_cons, List.forall_mem_cons]
    by_cases empty : text = ""
    · simp [empty, ih]
    · simp [empty]

theorem firstPresent_singleton (text : String) : firstPresent [text] = text := by
  by_cases empty : text = ""
  · simp [firstPresent, empty]
  · simp [firstPresent, empty]

theorem classLabel_eq_firstPresent (qualifiedName : Option String) (presentation name : String) :
    classLabel qualifiedName presentation name =
      firstPresent [qualifiedName.getD "", presentation, name] := by
  rw [firstPresent_cons, firstPresent_cons, firstPresent_singleton]
  cases qualifiedName with
  | none => simp [classLabel]
  | some qualifiedName =>
    by_cases empty : qualifiedName = ""
    · simp [classLabel, Option.filter, empty]
    · simp [classLabel, Option.filter, empty]

theorem nameOr_eq_empty_iff {rawLabel name : String} :
    nameOr rawLabel name = "" ↔ name = "" ∧ rawLabel = "" := by
  unfold nameOr
  by_cases empty : name = ""
  · simp [empty]
  · simp [empty]

/-- What is typed behind the name of a method. -/
def typedArguments (snippets : Bool) (parameters : List Parameter) : String :=
  if snippets then snippetCall parameters else openCall parameters

theorem typedArguments_ne_empty (snippets : Bool) (parameters : List Parameter) :
    typedArguments snippets parameters ≠ "" := by
  cases snippets with
  | true => simp [typedArguments, snippetCall]
  | false =>
    cases parameters with
    | nil => simp [typedArguments, openCall]
    | cons first rest => simp [typedArguments, openCall]

end Completion

open Completion

/-! ## Declarations -/

namespace Declaration

/-- What the entry of a declaration is, and the name that is declared. A package is declared by its
qualified name. -/
def shownAs? : Declaration → Option (ItemKind × String)
  | .method name _ _ _ => some (.method, name)
  | .classType name _ _ _ => some (.classType, name)
  | .field name _ _ => some (.field, name)
  | .localVar name _ => some (.localVar, name)
  | .package qualifiedName => some (.package, qualifiedName)
  | .other => none

/-- The texts that can be a label, the best one first, for a declaration that goes by a name. -/
def labels (name : String) : Declaration → List String
  | .method _ parameters returnType _ =>
    [name ++ parameterList parameters ++ " -> " ++ returnType.getD "void"]
  | .classType _ qualifiedName presentation _ => [qualifiedName.getD "", presentation, name]
  | .field _ typeName _ | .localVar _ typeName => [name ++ " : " ++ typeName]
  | .package _ => [name]
  | .other => []

/-- What is typed behind the name. -/
def typedBehind (snippets : Bool) : Declaration → String
  | .method _ parameters _ _ => typedArguments snippets parameters
  | _ => ""

/-- The comment of a declaration; for a variable and a package one is made up from the name. -/
def documentation (name : String) : Declaration → String
  | .method _ _ _ doc | .classType _ _ _ doc | .field _ _ doc => doc.getD ""
  | .localVar _ typeName => typeName ++ " " ++ name ++ ";"
  | .package _ => name
  | .other => ""

end Declaration

/-- What a candidate can be called: what its declaration can, and its label. -/
def Candidate.titles (candidate : Candidate) : List String :=
  match candidate.declaration with
  | .classType name qualifiedName presentation _ =>
    qualifiedName.toList ++ [presentation, name, candidate.rawLabel]
  | .method name _ _ _ | .field name _ _ | .localVar name _ | .package name =>
    [name, candidate.rawLabel]
  | .other => [candidate.rawLabel]

/-! ## Entries -/

namespace CompletionItem

/-- The texts of an entry are those of a declaration that goes by a name. -/
structure GoesBy (item : CompletionItem) (snippets : Bool) (declaration : Declaration)
    (name : String) : Prop where
  label : item.label = firstPresent (declaration.labels name)
  insertText : item.insertText = name ++ declaration.typedBehind snippets
  documentation : item.documentation = declaration.documentation name

end CompletionItem

namespace Completion

variable {snippets : Bool} {candidate : Candidate} {item : CompletionItem} {kind : ItemKind}
  {declared : String}

theorem exists_item?_of_shownAs (snippets : Bool)
    (shown : candidate.declaration.shownAs? = some (kind, declared)) :
    ∃ item, item? snippets candidate = some item ∧ item.kind = kind ∧
      item.GoesBy snippets candidate.declaration (nameOr candidate.rawLabel declared) := by
  obtain ⟨rawLabel, declaration⟩ := candidate
  cases declaration with
  | method name parameters returnType doc =>
    cases shown
    exact ⟨_, rfl, rfl, (firstPresent_singleton _).symm, rfl, rfl⟩
  | classType name qualifiedName presentation doc =>
    cases shown
    exact ⟨_, rfl, rfl, classLabel_eq_firstPresent .., String.append_empty.symm, rfl⟩
  | field name typeName doc =>
    cases shown
    exact ⟨_, rfl, rfl, (firstPresent_singleton _).symm, String.append_empty.symm, rfl⟩
  | localVar name typeName =>
    cases shown
    exact ⟨_, rfl, rfl, (firstPresent_singleton _).symm, String.append_empty.symm, rfl⟩
  | package qualifiedName =>
    cases shown
    exact ⟨_, rfl, rfl, (firstPresent_singleton _).symm, String.append_empty.symm, rfl⟩
  | other => cases shown

/-- Only a name with nothing around it can leave a label empty. -/
theorem label_eq_empty_iff (shown : candidate.declaration.shownAs? = some (kind, declared))
    (goesBy : item.GoesBy snippets candidate.declaration (nameOr candidate.rawLabel declared)) :
    item.label = "" ↔
      (kind = .classType ∨ kind = .package) ∧ ∀ text ∈ candidate.titles, text = "" := by
  rw [goesBy.label, firstPresent_eq_empty_iff]
  obtain ⟨rawLabel, declaration⟩ := candidate
  cases declaration with
  | method name parameters returnType doc =>
    cases shown
    simp [Declaration.labels]
  | classType name qualifiedName presentation doc =>
    cases shown
    cases qualifiedName <;> simp [Declaration.labels, Candidate.titles, nameOr_eq_empty_iff]
  | field name typeName doc =>
    cases shown
    simp [Declaration.labels]
  | localVar name typeName =>
    cases shown
    simp [Declaration.labels]
  | package qualifiedName =>
    cases shown
    simp [Declaration.labels, Candidate.titles, nameOr_eq_empty_iff]
  | other => cases shown

theorem typedBehind_eq_empty_iff
    (shown : candidate.declaration.shownAs? = some (kind, declared)) :
    candidate.declaration.typedBehind snippets = "" ↔ kind ≠ .method := by
  cases declaration : candidate.declaration with
  | method name parameters returnType doc =>
    rw [declaration] at shown
    cases shown
    simp [Declaration.typedBehind, typedArguments_ne_empty]
  | other =>
    rw [declaration] at shown
    cases shown
  | _ =>
    rw [declaration] at shown
    cases shown
    simp [Declaration.typedBehind]

theorem insertText_eq_empty_iff (shown : candidate.declaration.shownAs? = some (kind, declared))
    (goesBy : item.GoesBy snippets candidate.declaration (nameOr candidate.rawLabel declared)) :
    item.insertText = "" ↔ kind ≠ .method ∧ declared = "" ∧ candidate.rawLabel = "" := by
  rw [goesBy.insertText, String.append_eq_empty_iff, nameOr_eq_empty_iff,
    typedBehind_eq_empty_iff shown, and_comm]

/-- What holds of each candidate that is shown and its entry holds of them in their order. -/
theorem forall₂_items {holds : Candidate → CompletionItem → Prop}
    (each : ∀ candidate, candidate.declaration ≠ .other →
      ∃ item, item? snippets candidate = some item ∧ holds candidate item)
    (candidates : List Candidate) :
    List.Forall₂ holds (candidates.filter (·.declaration ≠ .other)) (items snippets candidates) := by
  unfold items
  induction candidates with
  | nil => exact .nil
  | cons candidate rest ih =>
    by_cases other : candidate.declaration = .other
    · have unseen : item? snippets candidate = none := by rw [item?, other]
      rwa [List.filterMap_cons_none unseen, List.filter_cons_of_neg (by simpa using other)]
    · obtain ⟨item, seen, this⟩ := each candidate other
      rw [List.filterMap_cons_some seen, List.filter_cons_of_pos (by simpa using other)]
      exact .cons this ih

/-- A list has one entry for each candidate of a kind that is shown, in their order. An entry goes
by the declared name, or by the label of its candidate exactly if that name is empty; so do its
label, its insert text and its documentation. The label is empty exactly for a class or a package
that cannot be called anything, and the insert text exactly for anything but a method where the
declared name and the label of the candidate are empty. -/
theorem items_go_by_names (snippets : Bool) (candidates : List Candidate) :
    List.Forall₂ (fun candidate item =>
        ∃ declared, candidate.declaration.shownAs? = some (item.kind, declared) ∧
          item.GoesBy snippets candidate.declaration
            (if declared = "" then candidate.rawLabel else declared) ∧
          (item.label = "" ↔ (item.kind = .classType ∨ item.kind = .package) ∧
            ∀ text ∈ candidate.titles, text = "") ∧
          (item.insertText = "" ↔
            item.kind ≠ .method ∧ declared = "" ∧ candidate.rawLabel = ""))
      (candidates.filter (·.declaration ≠ .other)) (items snippets candidates) := by
  refine forall₂_items (fun candidate other => ?_) candidates
  have shown : ∃ kind declared, candidate.declaration.shownAs? = some (kind, declared) := by
    cases declaration : candidate.declaration with
    | other => exact absurd declaration other
    | _ => exact ⟨_, _, rfl⟩
  obtain ⟨kind, declared, shown⟩ := shown
  obtain ⟨item, seen, rfl, goesBy⟩ := exists_item?_of_shownAs snippets shown
  have name : nameOr candidate.rawLabel declared =
      if declared = "" then candidate.rawLabel else declared := by
    simp only [nameOr, String.isEmpty_iff]
  exact ⟨item, seen, declared, shown, name ▸ goesBy, label_eq_empty_iff shown goesBy,
    insertText_eq_empty_iff shown goesBy⟩

/-- A package without any name has an empty label, a field has not. -/
example : (items false [⟨"", .package ""⟩, ⟨"if", .other⟩, ⟨"", .field "" "int" none⟩]).map
    (·.label) = ["", " : int"] := by decide

end Completion

end CodeBridge

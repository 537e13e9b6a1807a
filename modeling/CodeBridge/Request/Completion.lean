import CodeBridge.Request.Error

/-! # Completion

Candidates become the entries of a completion list. A label tells what a candidate is, the insert
text is what is typed for it; for a method, a client that knows snippets gets a tab stop for each
parameter and one at the end.
-/

namespace CodeBridge

/-- What the icon of a completion entry shows. -/
inductive ItemKind where
  | method
  | classType
  | field
  | localVar
  | package
  deriving DecidableEq, Repr

/-- How an insert text is to be read. -/
inductive InsertFormat where
  | plainText
  | snippet
  deriving DecidableEq, Repr

/-- An entry of a completion list. -/
structure CompletionItem where
  label : String
  kind : ItemKind
  documentation : String
  insertText : String
  insertFormat : InsertFormat
  deriving DecidableEq, Repr

namespace Completion

/-- A declared name, or the engine's own label in place of an empty one. -/
def nameOr (rawLabel name : String) : String :=
  if name.isEmpty then rawLabel else name

/-- Parts with a comma and a blank between them. -/
def commaSeparated (parts : List String) : String :=
  ", ".intercalate parts

/-- Types and names of parameters, in parentheses. -/
def parameterList (parameters : List Parameter) : String :=
  "(" ++ commaSeparated (parameters.map fun p => p.typeName ++ " " ++ p.name) ++ ")"

/-- An empty call is closed; the arguments of any other are left to the user. -/
def openCall (parameters : List Parameter) : String :=
  if parameters.isEmpty then "()" else "("

/-- A tab stop with its number and its placeholder. -/
def tabStop (number : Nat) (placeholder : String) : String :=
  "$\x7b" ++ toString number ++ ":" ++ placeholder ++ "\x7d"

/-- Tab stops for the parameters, numbered from one, and the last stop behind the call. -/
def snippetCall (parameters : List Parameter) : String :=
  let stops := parameters.zipIdx.map fun (parameter, index) => tabStop (index + 1) parameter.name
  "(" ++ commaSeparated stops ++ ")$0"

/-- What stands for a class: its qualified name, else its presentation, else its name. -/
def classLabel (qualifiedName : Option String) (presentation name : String) : String :=
  match qualifiedName.filter (!·.isEmpty) with
  | some qualifiedName => qualifiedName
  | none => if presentation.isEmpty then name else presentation

/-- The entry of a candidate; `none` for a kind that is not shown. -/
def item? (snippets : Bool) (candidate : Candidate) : Option CompletionItem :=
  match candidate.declaration with
  | .method name parameters returnType doc =>
    let name := nameOr candidate.rawLabel name
    some {
      label := name ++ parameterList parameters ++ " -> " ++ returnType.getD "void"
      kind := .method
      documentation := doc.getD ""
      insertText := name ++ if snippets then snippetCall parameters else openCall parameters
      insertFormat := if snippets then .snippet else .plainText }
  | .classType name qualifiedName presentation doc =>
    let name := nameOr candidate.rawLabel name
    some {
      label := classLabel qualifiedName presentation name
      kind := .classType
      documentation := doc.getD ""
      insertText := name
      insertFormat := .plainText }
  | .field name typeName doc =>
    let name := nameOr candidate.rawLabel name
    some {
      label := name ++ " : " ++ typeName
      kind := .field
      documentation := doc.getD ""
      insertText := name
      insertFormat := .plainText }
  | .localVar name typeName =>
    let name := nameOr candidate.rawLabel name
    some {
      label := name ++ " : " ++ typeName
      kind := .localVar
      documentation := typeName ++ " " ++ name ++ ";"
      insertText := name
      insertFormat := .plainText }
  | .package qualifiedName =>
    let name := nameOr candidate.rawLabel qualifiedName
    some {
      label := name
      kind := .package
      documentation := name
      insertText := name
      insertFormat := .plainText }
  | .other => none

/-- The entries of a list of candidates, in its order. -/
def items (snippets : Bool) (candidates : List Candidate) : List CompletionItem :=
  candidates.filterMap (item? snippets)

end Completion

/-- The completion list at a position of a document. -/
def completion (engine : Engine) (uri : Uri) (position : Position) (snippets : Bool) :
    Except RequestError (List CompletionItem) := do
  let offset ← offsetIn engine uri position
  let candidates ← liftEngine (engine.candidates uri offset)
  return Completion.items snippets candidates

end CodeBridge

import CodeBridge.Engine.Workspace

/-! # Snapshots

A snapshot is a workspace as it is stored: one list for each table, with links between declarations
given by their places in the list of declarations. A snapshot becomes a workspace only if each of
its links points at a declaration.
-/

namespace CodeBridge

/-- Candidates of one document. -/
structure CompletionEntry where
  uri : Uri
  candidates : List Candidate
  deriving DecidableEq, Repr

/-- The tables of a workspace as they are stored. -/
structure Snapshot where
  documents : List Document := []
  symbols : List SymbolDefinition := []
  references : List SymbolReference := []
  highlighters : List HighlightRegion := []
  completions : List CompletionEntry := []
  deriving DecidableEq, Repr

/-- What a link between declarations belongs to. -/
inductive LinkOwner where
  | superMethodOf (name : String)
  | referenceIn (uri : Uri)
  deriving DecidableEq, Repr

def LinkOwner.text : LinkOwner → String
  | .superMethodOf name => "super method of '" ++ name ++ "'"
  | .referenceIn uri => "reference in " ++ uri.text

/-- A link to a declaration. -/
structure Link where
  owner : LinkOwner
  target : SymbolId
  deriving DecidableEq, Repr

/-- A link that points past the last declaration. -/
structure DanglingLink where
  link : Link
  symbolCount : Nat
  deriving DecidableEq, Repr

def DanglingLink.message (dangling : DanglingLink) : String :=
  dangling.link.owner.text ++ " points at symbol " ++ toString dangling.link.target.index ++
    " but only " ++ toString dangling.symbolCount ++ " symbols exist"

/-- As the reason of an engine. -/
def DanglingLink.toEngineError (dangling : DanglingLink) : EngineError :=
  .snapshot dangling.message

namespace Snapshot

/-- All links: those of the declarations to their super methods, then those of the references. -/
def links (snapshot : Snapshot) : List Link :=
  (snapshot.symbols.flatMap fun definition =>
    definition.superMethods.map (⟨.superMethodOf definition.name, ·⟩)) ++
  snapshot.references.flatMap fun reference =>
    reference.targets.map (⟨.referenceIn reference.uri, ·⟩)

/-- The first link that points past the last declaration. -/
def danglingLink? (snapshot : Snapshot) : Option DanglingLink :=
  (snapshot.links.find? fun link => snapshot.symbols.length ≤ link.target.index).map
    (⟨·, snapshot.symbols.length⟩)

/-- The changes that build the tables from an empty workspace. -/
def changes (snapshot : Snapshot) : List Workspace.Change :=
  snapshot.documents.map .document ++ snapshot.symbols.map .symbol ++
    snapshot.references.map .reference ++ snapshot.highlighters.map .highlighter ++
    snapshot.completions.flatMap fun entry => entry.candidates.map (.completion entry.uri)

/-- The workspace of a snapshot, unless a link dangles. -/
def toWorkspace (snapshot : Snapshot) : Except DanglingLink Workspace :=
  match snapshot.danglingLink? with
  | some dangling => .error dangling
  | none => .ok (Workspace.empty.run snapshot.changes)

end Snapshot

end CodeBridge

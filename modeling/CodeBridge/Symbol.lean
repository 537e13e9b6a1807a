import CodeBridge.Text.Span
import CodeBridge.Text.Units
import CodeBridge.Uri.Basic

/-! # Symbols

The declarations of a workspace and the places that refer to them. A symbol is known by its number,
which is its place in the table of declarations.
-/

namespace CodeBridge

/-- Number of a declaration. -/
structure SymbolId where
  val : UInt32
  deriving DecidableEq, Repr, Inhabited

/-- Number of the declaration at a place of the table. -/
def SymbolId.ofIndex (index : Nat) : SymbolId :=
  ⟨.ofNat index⟩

/-- Place of a declaration in the table. -/
def SymbolId.index (id : SymbolId) : Nat :=
  id.val.toNat

theorem SymbolId.index_ofIndex {index : Nat} (fits : index < UInt32.size) :
    (SymbolId.ofIndex index).index = index := by
  simp only [SymbolId.index, SymbolId.ofIndex]
  exact UInt32.toNat_ofNat_of_lt' fits

theorem SymbolId.ofIndex_index (id : SymbolId) : SymbolId.ofIndex id.index = id :=
  congrArg SymbolId.mk UInt32.ofNat_toNat

/-- Whether a use reads or writes its symbol. -/
inductive Access where
  | read
  | write
  deriving DecidableEq, Repr, Inhabited

/-- What a symbol declares. -/
inductive SymbolKind where
  | method
  | classType
  | field
  | localVar
  | parameter
  | package
  deriving DecidableEq, Repr, Inhabited

/-- Only uses of something that holds a value read or write it. -/
def SymbolKind.tracksAccess : SymbolKind → Bool
  | .field | .localVar | .parameter => true
  | .method | .classType | .package => false

/-- Where a declaration stands; its offset may be unknown. -/
structure SymbolLocation where
  uri : Uri
  textOffset : Option Nat
  deriving DecidableEq, Repr, Inhabited

/-- A declaration of the workspace. -/
structure SymbolDefinition where
  name : String
  kind : SymbolKind
  location : SymbolLocation
  /-- Where the declared name itself stands. -/
  nameRange : Option Span := none
  /-- The methods that this one overrides, nearest first. -/
  superMethods : List SymbolId := []
  /-- Whether the declaration gives its symbol a value. -/
  declarationWrites : Bool := false
  deriving DecidableEq, Repr, Inhabited

/-- The declaration of a name that stands at an offset. -/
def SymbolDefinition.ofName (name : String) (kind : SymbolKind) (uri : Uri) (offset : Nat) :
    SymbolDefinition where
  name := name
  kind := kind
  location := ⟨uri, some offset⟩
  nameRange := some ⟨offset, offset + Text.unitLength name⟩

/-- Whether a definition's name stands in a document over an offset. -/
def SymbolDefinition.covers (definition : SymbolDefinition) (uri : Uri) (offset : Nat) : Bool :=
  definition.location.uri = uri && definition.nameRange.any (·.contains offset)

/-- Whether a definition's name stands in a document at exactly a span. -/
def SymbolDefinition.isNamedAt (definition : SymbolDefinition) (uri : Uri) (span : Span) : Bool :=
  definition.location.uri = uri && definition.nameRange = some span

/-- A place that refers to symbols; with more than one target it is ambiguous. -/
structure SymbolReference where
  uri : Uri
  range : Span
  targets : List SymbolId
  access : Access := .read
  deriving DecidableEq, Repr, Inhabited

/-- A region of a document with occurrences of its own, shown while the cursor is in `trigger`. -/
structure HighlightRegion where
  uri : Uri
  trigger : Span
  /-- Name under which a use of the region is counted. -/
  featureId : Option String := none
  reads : List Span := []
  writes : List Span := []
  deriving DecidableEq, Repr, Inhabited

/-- A document of the workspace. -/
structure Document where
  uri : Uri
  text : String
  /-- The document that this one is injected into. -/
  host : Option Uri := none
  deriving DecidableEq, Repr, Inhabited

end CodeBridge

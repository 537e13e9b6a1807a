import CodeBridge.Proofs.Json.Record
import CodeBridge.Snapshot.Decode
import CodeBridge.Snapshot.Encode

/-! # Snapshots that were written

A snapshot can be stored if its offsets have 64 bits and its URIs are what their own texts name.
Main statement: such a snapshot is read back from its text, whatever its strings are, in whichever
order its spans have their ends, and however its lists repeat.
-/

namespace CodeBridge

open Json

/-! ## What can be stored -/

/-- The text of the URI names the URI. -/
def Uri.Storable (uri : Uri) : Prop :=
  Uri.parse? uri.text = some uri

/-- Both ends of the span have 64 bits; it may be inverted. -/
def Span.Storable (span : Span) : Prop :=
  span.start < UInt64.size ∧ span.stop < UInt64.size

structure SymbolLocation.Storable (location : SymbolLocation) : Prop where
  uri : location.uri.Storable
  textOffset : ∀ offset ∈ location.textOffset, offset < UInt64.size

structure SymbolDefinition.Storable (definition : SymbolDefinition) : Prop where
  location : definition.location.Storable
  nameRange : ∀ span ∈ definition.nameRange, span.Storable

structure SymbolReference.Storable (reference : SymbolReference) : Prop where
  uri : reference.uri.Storable
  range : reference.range.Storable

structure HighlightRegion.Storable (region : HighlightRegion) : Prop where
  uri : region.uri.Storable
  trigger : region.trigger.Storable
  reads : ∀ span ∈ region.reads, span.Storable
  writes : ∀ span ∈ region.writes, span.Storable

structure Document.Storable (document : Document) : Prop where
  uri : document.uri.Storable
  host : ∀ host ∈ document.host, host.Storable

structure Snapshot.Storable (snapshot : Snapshot) : Prop where
  documents : ∀ document ∈ snapshot.documents, document.Storable
  symbols : ∀ definition ∈ snapshot.symbols, definition.Storable
  references : ∀ reference ∈ snapshot.references, reference.Storable
  highlighters : ∀ region ∈ snapshot.highlighters, region.Storable
  completions : ∀ entry ∈ snapshot.completions, entry.uri.Storable

/-! ## Names, numbers and spans -/

theorem Uri.Storable.stored {uri : Uri} (storable : uri.Storable) :
    Stored Uri.toJson Uri.ofJson? uri where
  exact := .string uri.text
  decodes := storable

theorem Span.Storable.stored {span : Span} (storable : span.Storable) :
    Stored Span.toJson Span.ofJson? span := by
  have start := stored_offset storable.1
  have stop := stored_offset storable.2
  constructor
  · exact .object_cons start.exact (.object_cons stop.exact .object_nil)
  · refine Record.of?_bind rfl (by decide) ?_
    refine Record.required_bind start rfl ?_
    refine Record.required_bind stop rfl ?_
    rfl

theorem SymbolId.stored (id : SymbolId) : Stored SymbolId.toJson SymbolId.ofJson? id := by
  have bound : id.index < UInt32.size := id.val.toNat_lt
  constructor
  · exact .nat (Nat.lt_trans bound (by decide))
  · rw [SymbolId.ofJson?, SymbolId.toJson, uint32?, natBelow?_nat bound]
    simp [SymbolId.index]

theorem SymbolId.stored_list (ids : List SymbolId) :
    Stored (.list SymbolId.toJson) (list? SymbolId.ofJson?) ids :=
  .list fun id _ => id.stored

theorem Access.stored (access : Access) :
    Stored (fun access => .string access.name) Access.ofJson? access :=
  stored_choice (by cases access <;> rfl)

theorem SymbolKind.stored (kind : SymbolKind) :
    Stored (fun kind => .string kind.name) SymbolKind.ofJson? kind :=
  stored_choice (by cases kind <;> rfl)

theorem stored_orNull_text (text : Option String) :
    Stored (.orNull .string) (nullable? text?) text :=
  .orNull rfl fun text _ => stored_text text

/-! ## Records -/

theorem SymbolLocation.Storable.stored {location : SymbolLocation}
    (storable : location.Storable) :
    Stored SymbolLocation.toJson SymbolLocation.ofJson? location := by
  have uri := storable.uri.stored
  have textOffset := Stored.orNull rfl fun offset member =>
    stored_offset (storable.textOffset offset member)
  constructor
  · exact .object_cons uri.exact (.object_cons textOffset.exact .object_nil)
  · refine Record.of?_bind rfl (by decide) ?_
    refine Record.required_bind uri rfl ?_
    refine Record.nullable_bind textOffset rfl ?_
    rfl

theorem SymbolDefinition.Storable.stored {definition : SymbolDefinition}
    (storable : definition.Storable) :
    Stored SymbolDefinition.toJson SymbolDefinition.ofJson? definition := by
  have name := stored_text definition.name
  have kind := definition.kind.stored
  have location := storable.location.stored
  have nameRange := Stored.orNull rfl fun span member => (storable.nameRange span member).stored
  have superMethods := SymbolId.stored_list definition.superMethods
  have declarationWrites := stored_bool definition.declarationWrites
  constructor
  · exact .object_cons name.exact (.object_cons kind.exact (.object_cons location.exact
      (.object_cons nameRange.exact (.object_cons superMethods.exact
        (.object_cons declarationWrites.exact .object_nil)))))
  · refine Record.of?_bind rfl (by decide) ?_
    refine Record.required_bind name rfl ?_
    refine Record.required_bind kind rfl ?_
    refine Record.required_bind location rfl ?_
    refine Record.optional_bind nameRange rfl ?_
    refine Record.withDefault_bind superMethods rfl ?_
    refine Record.withDefault_bind declarationWrites rfl ?_
    rfl

theorem SymbolReference.Storable.stored {reference : SymbolReference}
    (storable : reference.Storable) :
    Stored SymbolReference.toJson SymbolReference.ofJson? reference := by
  have uri := storable.uri.stored
  have range := storable.range.stored
  have targets := SymbolId.stored_list reference.targets
  have access := reference.access.stored
  constructor
  · exact .object_cons uri.exact (.object_cons range.exact (.object_cons targets.exact
      (.object_cons access.exact .object_nil)))
  · refine Record.of?_bind rfl (by decide) ?_
    refine Record.required_bind uri rfl ?_
    refine Record.required_bind range rfl ?_
    refine Record.required_bind targets rfl ?_
    refine Record.withDefault_bind access rfl ?_
    rfl

theorem HighlightRegion.Storable.stored {region : HighlightRegion} (storable : region.Storable) :
    Stored HighlightRegion.toJson HighlightRegion.ofJson? region := by
  have uri := storable.uri.stored
  have trigger := storable.trigger.stored
  have featureId := stored_orNull_text region.featureId
  have reads := Stored.list fun span member => (storable.reads span member).stored
  have writes := Stored.list fun span member => (storable.writes span member).stored
  constructor
  · exact .object_cons uri.exact (.object_cons trigger.exact (.object_cons featureId.exact
      (.object_cons reads.exact (.object_cons writes.exact .object_nil))))
  · refine Record.of?_bind rfl (by decide) ?_
    refine Record.required_bind uri rfl ?_
    refine Record.required_bind trigger rfl ?_
    refine Record.optional_bind featureId rfl ?_
    refine Record.withDefault_bind reads rfl ?_
    refine Record.withDefault_bind writes rfl ?_
    rfl

theorem Document.Storable.stored {document : Document} (storable : document.Storable) :
    Stored Document.toJson Document.ofJson? document := by
  have uri := storable.uri.stored
  have text := stored_text document.text
  have host := Stored.orNull rfl fun host member => (storable.host host member).stored
  constructor
  · exact .object_cons uri.exact (.object_cons text.exact (.object_cons host.exact .object_nil))
  · refine Record.of?_bind rfl (by decide) ?_
    refine Record.required_bind uri rfl ?_
    refine Record.required_bind text rfl ?_
    refine Record.optional_bind host rfl ?_
    rfl

theorem Parameter.stored (parameter : Parameter) :
    Stored Parameter.toJson Parameter.ofJson? parameter := by
  have typeName := stored_text parameter.typeName
  have name := stored_text parameter.name
  constructor
  · exact .object_cons typeName.exact (.object_cons name.exact .object_nil)
  · refine Record.of?_bind rfl (by decide) ?_
    refine Record.required_bind typeName rfl ?_
    refine Record.required_bind name rfl ?_
    rfl

/-! ## Declarations -/

namespace Declaration

/-- The kind of a declaration is found where it is written, before its other fields. -/
theorem splitKind?_object (kind : String) {fields : List (String × Json)}
    (others : ∀ field ∈ fields, field.1 ≠ "kind") :
    splitKind? (.object (("kind", .string kind) :: fields)) = some (kind, .object fields) := by
  have once : fields.filter (·.1 = "kind") = [] := by
    simpa [List.filter_eq_nil_iff] using others
  simpa [splitKind?, once] using others

/-- Below a declaration stand its list of parameters, a parameter and the fields of that. -/
theorem depth_toJson_le (declaration : Declaration) : declaration.toJson.depth ≤ 3 := by
  have texts : ∀ text, (Json.orNull .string text).depth ≤ 2 := by
    intro text
    rw [depth_orNull_string]
    omega
  have parameters : ∀ parameters, (Json.list Parameter.toJson parameters).depth ≤ 2 := by
    intro parameters
    refine depth_list_le fun parameter _ => ?_
    exact Nat.le_refl 1
  cases declaration <;>
    refine Nat.succ_le_succ (depthOfMembers_le_iff.mpr ?_) <;>
    simp [texts, parameters, Json.depth]

/-- A declaration is stored if the fields behind its kind are. -/
theorem stored_of_fields {level : Nat} (shallow : level + 3 ≤ maxDepth) {declaration : Declaration}
    {kind : String} {fields : List (String × Json)}
    (shape : declaration.toJson = .object (("kind", .string kind) :: fields))
    (others : ∀ field ∈ fields, field.1 ≠ "kind") (exact : (Json.object fields).Exact)
    (decodes : ofFields? kind (.object fields) = some declaration) :
    Stored toJson (ofJson? level) declaration := by
  have whole : declaration.toJson.Exact := by
    rw [shape]
    exact .object_cons (.string kind) exact
  have depth := depth_toJson_le declaration
  refine ⟨whole, ?_⟩
  rw [ofJson?, if_pos ⟨whole.isPlain, by omega⟩, shape, splitKind?_object kind others]
  exact decodes

theorem stored (level : Nat) (shallow : level + 3 ≤ maxDepth) (declaration : Declaration) :
    Stored toJson (ofJson? level) declaration := by
  cases declaration with
  | method name parameters returnType doc =>
    have name := stored_text name
    have parameters := Stored.list fun parameter (_ : parameter ∈ parameters) => parameter.stored
    have returnType := stored_orNull_text returnType
    have doc := stored_orNull_text doc
    refine stored_of_fields shallow rfl (by simp) ?_ ?_
    · exact .object_cons name.exact (.object_cons parameters.exact
        (.object_cons returnType.exact (.object_cons doc.exact .object_nil)))
    · refine Record.of?_bind rfl (by decide) ?_
      refine Record.required_bind name rfl ?_
      refine Record.withDefault_bind parameters rfl ?_
      refine Record.optional_bind returnType rfl ?_
      refine Record.optional_bind doc rfl ?_
      rfl
  | classType name qualifiedName presentation doc =>
    have name := stored_text name
    have qualifiedName := stored_orNull_text qualifiedName
    have presentation := stored_text presentation
    have doc := stored_orNull_text doc
    refine stored_of_fields shallow rfl (by simp) ?_ ?_
    · exact .object_cons name.exact (.object_cons qualifiedName.exact
        (.object_cons presentation.exact (.object_cons doc.exact .object_nil)))
    · refine Record.of?_bind rfl (by decide) ?_
      refine Record.required_bind name rfl ?_
      refine Record.optional_bind qualifiedName rfl ?_
      refine Record.required_bind presentation rfl ?_
      refine Record.optional_bind doc rfl ?_
      rfl
  | field name typeName doc =>
    have name := stored_text name
    have typeName := stored_text typeName
    have doc := stored_orNull_text doc
    refine stored_of_fields shallow rfl (by simp) ?_ ?_
    · exact .object_cons name.exact (.object_cons typeName.exact
        (.object_cons doc.exact .object_nil))
    · refine Record.of?_bind rfl (by decide) ?_
      refine Record.required_bind name rfl ?_
      refine Record.required_bind typeName rfl ?_
      refine Record.optional_bind doc rfl ?_
      rfl
  | localVar name typeName =>
    have name := stored_text name
    have typeName := stored_text typeName
    refine stored_of_fields shallow rfl (by simp) ?_ ?_
    · exact .object_cons name.exact (.object_cons typeName.exact .object_nil)
    · refine Record.of?_bind rfl (by decide) ?_
      refine Record.required_bind name rfl ?_
      refine Record.required_bind typeName rfl ?_
      rfl
  | package qualifiedName =>
    have qualifiedName := stored_text qualifiedName
    refine stored_of_fields shallow rfl (by simp) ?_ ?_
    · exact .object_cons qualifiedName.exact .object_nil
    · refine Record.of?_bind rfl (by decide) ?_
      refine Record.required_bind qualifiedName rfl ?_
      rfl
  | other => exact stored_of_fields shallow rfl (List.forall_mem_nil _) .object_nil rfl

end Declaration

/-! ## Whole snapshots -/

theorem Candidate.stored (level : Nat) (shallow : level + 4 ≤ Declaration.maxDepth)
    (candidate : Candidate) : Stored Candidate.toJson (Candidate.ofJson? level) candidate := by
  have rawLabel := stored_text candidate.rawLabel
  have declaration := Declaration.stored (level + 1) (by omega) candidate.declaration
  constructor
  · exact .object_cons rawLabel.exact (.object_cons declaration.exact .object_nil)
  · refine Record.of?_bind rfl (by decide) ?_
    refine Record.required_bind rawLabel rfl ?_
    refine Record.required_bind declaration rfl ?_
    rfl

theorem CompletionEntry.stored (level : Nat) (shallow : level + 6 ≤ Declaration.maxDepth)
    {entry : CompletionEntry} (storable : entry.uri.Storable) :
    Stored CompletionEntry.toJson (CompletionEntry.ofJson? level) entry := by
  have uri := storable.stored
  have candidates := Stored.list fun candidate (_ : candidate ∈ entry.candidates) =>
    candidate.stored (level + 2) (by omega)
  constructor
  · exact .object_cons uri.exact (.object_cons candidates.exact .object_nil)
  · refine Record.of?_bind rfl (by decide) ?_
    refine Record.required_bind uri rfl ?_
    refine Record.required_bind candidates rfl ?_
    rfl

namespace Snapshot

theorem Storable.stored {snapshot : Snapshot} (storable : snapshot.Storable) :
    Stored toJson ofJson? snapshot := by
  have documents := Stored.list fun document member => (storable.documents document member).stored
  have symbols := Stored.list fun definition member => (storable.symbols definition member).stored
  have references := Stored.list fun reference member =>
    (storable.references reference member).stored
  have highlighters := Stored.list fun region member =>
    (storable.highlighters region member).stored
  have completions := Stored.list fun entry member =>
    CompletionEntry.stored 2 (by decide) (storable.completions entry member)
  constructor
  · exact .object_cons documents.exact (.object_cons symbols.exact (.object_cons references.exact
      (.object_cons highlighters.exact (.object_cons completions.exact .object_nil))))
  · refine Record.of?_bind rfl (by decide) ?_
    refine Record.withDefault_bind documents rfl ?_
    refine Record.withDefault_bind symbols rfl ?_
    refine Record.withDefault_bind references rfl ?_
    refine Record.withDefault_bind highlighters rfl ?_
    refine Record.withDefault_bind completions rfl ?_
    rfl

/-- A snapshot that can be stored is read back from its text. -/
theorem read_write_of_storable (snapshot : Snapshot) (storable : snapshot.Storable) :
    read snapshot.write = some snapshot := by
  rw [read, write, storable.stored.exact.read_write]
  exact storable.stored.decodes

/-- All kinds, accesses and declarations, the largest numbers, inverted spans, a document that is
there twice, and characters of every way to be written. -/
def extremes : Snapshot where
  documents :=
    [{ uri := ⟨"file:///a"⟩, text := "\"\\/\x00\x08\t\n\x0c\r\x1f\x7fé\u2028\uffff😀"
       host := some ⟨"untitled:b"⟩ },
      { uri := ⟨"file:///a"⟩, text := "" }]
  symbols := [.method, .classType, .field, .localVar, .parameter, .package].map fun kind =>
    { name := "", kind := kind, location := ⟨⟨"file:///a"⟩, some (UInt64.size - 1)⟩
      nameRange := some ⟨UInt64.size - 1, 0⟩, superMethods := [⟨4294967295⟩, ⟨0⟩]
      declarationWrites := true }
  references := [.read, .write].map fun access =>
    { uri := ⟨"file:///a"⟩, range := ⟨1, 0⟩, targets := [⟨0⟩, ⟨0⟩], access := access }
  highlighters :=
    [{ uri := ⟨"untitled:b"⟩, trigger := ⟨0, UInt64.size - 1⟩, featureId := some "null"
       reads := [⟨3, 3⟩] }]
  completions :=
    [{ uri := ⟨"file:///a"⟩, candidates :=
        [⟨"m", .method "m" [⟨"int", "a"⟩, ⟨"int", "a"⟩] (some "kind") none⟩,
          ⟨"C", .classType "C" none "\x7b\x7d" (some "")⟩, ⟨"f", .field "f" "int" none⟩,
          ⟨"v", .localVar "v" "int"⟩, ⟨"p", .package "p"⟩, ⟨"?", .other⟩] },
      { uri := ⟨"untitled:b"⟩, candidates := [] }]

theorem read_write_of_storable_extremes : extremes.Storable ∧
    read extremes.write = some extremes := by
  have a : Uri.Storable ⟨"file:///a"⟩ := by
    unfold Uri.Storable
    decide
  have b : Uri.Storable ⟨"untitled:b"⟩ := by
    unfold Uri.Storable
    decide
  have storable : extremes.Storable := by
    constructor
    · refine List.forall_mem_cons.mpr ⟨⟨a, ?_⟩, List.forall_mem_singleton.mpr ⟨a, ?_⟩⟩
      · rintro host ⟨⟩
        exact b
      · rintro host ⟨⟩
    · refine List.forall_mem_map.mpr fun kind _ => ⟨⟨a, ?_⟩, ?_⟩
      · rintro offset ⟨⟩
        decide
      · rintro span ⟨⟩
        exact ⟨by decide, by decide⟩
    · have inverted : Span.Storable ⟨1, 0⟩ := ⟨by decide, by decide⟩
      exact List.forall_mem_map.mpr fun access _ => ⟨a, inverted⟩
    · refine List.forall_mem_singleton.mpr ⟨b, ⟨by decide, by decide⟩, ?_, List.forall_mem_nil _⟩
      exact List.forall_mem_singleton.mpr ⟨by decide, by decide⟩
    · exact List.forall_mem_cons.mpr ⟨a, List.forall_mem_singleton.mpr b⟩
  exact ⟨storable, read_write_of_storable extremes storable⟩

end Snapshot

end CodeBridge

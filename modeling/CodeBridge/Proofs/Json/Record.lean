import CodeBridge.Json.Record
import CodeBridge.Proofs.Json.RoundTrip

/-! # Records that were written

A datum is stored in an encoding if the encoding is exact and is decoded as the datum. That passes
from the items of a list to the list, from a value to its optional form, and from the fields of a
record to the record, provided that the record is written with all of its fields in order.
-/

namespace CodeBridge.Json

variable {α : Type} {encode : α → Json} {decode : Json → Option α}

/-- Nothing of a datum is lost in its encoding. -/
structure Stored (encode : α → Json) (decode : Json → Option α) (datum : α) : Prop where
  exact : (encode datum).Exact
  decodes : decode (encode datum) = some datum

/-! ## Single values -/

theorem stored_text (text : String) : Stored .string text? text where
  exact := .string text
  decodes := rfl

theorem stored_bool (value : Bool) : Stored .bool bool? value where
  exact := .bool value
  decodes := rfl

theorem Exact.nat {n : Nat} (fits : n < UInt64.size) : (nat n).Exact :=
  .integer (by omega) (Int.ofNat_lt.mpr fits)

theorem natBelow?_nat {n bound : Nat} (fits : n < bound) : natBelow? bound (nat n) = some n :=
  if_pos fits

theorem stored_offset {offset : Nat} (fits : offset < UInt64.size) : Stored nat offset? offset where
  exact := .nat fits
  decodes := natBelow?_nat fits

/-- A name by which its datum is known stands for the datum. -/
theorem stored_choice {name : α → String} {ofName? : String → Option α} {datum : α}
    (known : ofName? (name datum) = some datum) :
    Stored (fun datum => .string (name datum)) (choice? ofName?) datum where
  exact := .string _
  decodes := known

/-! ## Lists and optional values -/

theorem Stored.list {items : List α} (each : ∀ item ∈ items, Stored encode decode item) :
    Stored (.list encode) (list? decode) items where
  exact := by
    refine .array fun value member => ?_
    obtain ⟨item, listed, rfl⟩ := List.mem_map.mp member
    exact (each item listed).exact
  decodes := by
    change (items.map encode).mapM decode = some items
    induction items with
    | nil => rfl
    | cons item items ih =>
      obtain ⟨first, others⟩ := List.forall_mem_cons.mp each
      rw [List.map_cons, List.mapM_cons, first.decodes, ih others]
      rfl

/-- An optional value is told from its absence if nothing is decoded from `null`. -/
theorem Stored.orNull (refuses : decode .null = none) {value : Option α}
    (each : ∀ datum ∈ value, Stored encode decode datum) :
    Stored (.orNull encode) (nullable? decode) value := by
  cases value with
  | none => exact ⟨.null, rfl⟩
  | some datum =>
    obtain ⟨exact, decodes⟩ := each datum rfl
    refine ⟨exact, ?_⟩
    change nullable? decode (encode datum) = _
    unfold nullable?
    split
    · -- A datum that is written as `null` would be decoded from it.
      next absent =>
      rw [absent, refuses] at decodes
      cases decodes
    · rw [decodes]
      rfl

/-! ## Objects -/

theorem Exact.object_nil : (Json.object []).Exact :=
  .object (List.forall_mem_nil _)

theorem Exact.object_cons {key : String} {value : Json} {members : List (String × Json)}
    (first : value.Exact) (others : (Json.object members).Exact) :
    (Json.object ((key, value) :: members)).Exact := by
  cases others with
  | object each => exact .object (List.forall_mem_cons.mpr ⟨first, each⟩)

/-! ## Plain and shallow values -/

theorem areItemsPlain_iff {items : List Json} :
    areItemsPlain items = true ↔ ∀ item ∈ items, item.isPlain = true := by
  induction items with
  | nil => simp [areItemsPlain]
  | cons item items ih => simp [areItemsPlain, ih]

theorem areMembersPlain_iff {members : List (String × Json)} :
    areMembersPlain members = true ↔ ∀ member ∈ members, member.2.isPlain = true := by
  induction members with
  | nil => simp [areMembersPlain]
  | cons member members ih => simp [areMembersPlain, ih]

theorem Exact.isPlain {v : Json} (exact : v.Exact) : v.isPlain = true := by
  induction exact with
  | array each ih => exact areItemsPlain_iff.mpr ih
  | object each ih => exact areMembersPlain_iff.mpr ih
  | _ => rfl

theorem depthOfItems_le_iff {items : List Json} {bound : Nat} :
    depthOfItems items ≤ bound ↔ ∀ item ∈ items, item.depth ≤ bound := by
  induction items with
  | nil => simp [depthOfItems]
  | cons item items ih => rw [depthOfItems, Nat.max_le, ih, List.forall_mem_cons]

theorem depthOfMembers_le_iff {members : List (String × Json)} {bound : Nat} :
    depthOfMembers members ≤ bound ↔ ∀ member ∈ members, member.2.depth ≤ bound := by
  induction members with
  | nil => simp [depthOfMembers]
  | cons member members ih => rw [depthOfMembers, Nat.max_le, ih, List.forall_mem_cons]

theorem depth_list_le {items : List α} {bound : Nat}
    (each : ∀ item ∈ items, (encode item).depth ≤ bound) :
    (Json.list encode items).depth ≤ bound + 1 := by
  refine Nat.succ_le_succ (depthOfItems_le_iff.mpr fun value member => ?_)
  obtain ⟨item, listed, rfl⟩ := List.mem_map.mp member
  exact each item listed

theorem depth_orNull_string (value : Option String) : (orNull .string value).depth = 0 := by
  cases value <;> rfl

/-! ## Fields

A record is decoded one field after the other. Each of these steps is taken by one lemma, which asks
for what follows the field.
-/

namespace Record

variable {β : Type} {result : β}

/-- An object with just the fields of a record is that record. -/
theorem of?_bind {names : List String} {closed : Bool} {members : List (String × Json)}
    {rest : Record → Option β} (keys : members.map Prod.fst = names) (distinct : names.Nodup)
    (continues : rest ⟨false, members⟩ = some result) :
    (of? names closed (.object members) >>= rest) = some result := by
  subst keys
  have known : members.filter (fun member => (members.map Prod.fst).contains member.1) =
      members := by
    refine List.filter_eq_self.mpr fun member listed => ?_
    exact List.contains_iff_mem.mpr (List.mem_map_of_mem listed)
  have whole : of? (members.map Prod.fst) closed (.object members) = some ⟨false, members⟩ := by
    simp only [of?, ofMembers?, known]
    exact if_pos ⟨distinct, fun _ => trivial⟩
  rw [whole]
  exact continues

variable {record : Record} {name : String}

theorem required_bind {datum : α} {rest : α → Option β} (stored : Stored encode decode datum)
    (found : record.find? name = some (encode datum)) (continues : rest datum = some result) :
    (record.required name decode >>= rest) = some result := by
  rw [required, found, Option.bind_some, stored.decodes]
  exact continues

theorem withDefault_bind {datum default : α} {rest : α → Option β}
    (stored : Stored encode decode datum) (found : record.find? name = some (encode datum))
    (continues : rest datum = some result) :
    (record.withDefault name decode default >>= rest) = some result := by
  rw [withDefault, found]
  simp only [stored.decodes]
  exact continues

theorem optional_bind {value : Option α} {rest : Option α → Option β}
    (stored : Stored (.orNull encode) (nullable? decode) value)
    (found : record.find? name = some (.orNull encode value))
    (continues : rest value = some result) :
    (record.optional name decode >>= rest) = some result :=
  withDefault_bind stored found continues

theorem nullable_bind {value : Option α} {rest : Option α → Option β}
    (stored : Stored (.orNull encode) (nullable? decode) value)
    (found : record.find? name = some (.orNull encode value))
    (continues : rest value = some result) :
    (record.nullable name decode >>= rest) = some result := by
  unfold nullable
  split
  · exact required_bind stored found continues
  · exact withDefault_bind stored found continues

end Record

end CodeBridge.Json

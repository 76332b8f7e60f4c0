import SchemaWire.Proofs.Value.Bounded
import SchemaWire.Proofs.Value.RoundTrip

/-!
Schemas that grow. Fields appended to a struct are not seen by decoders of the schema as it was, and
missed by decoders of the schema as it is in values of the schema as it was.
-/
namespace SchemaWire

namespace Schema

/-- The schema with more fields at the end of the struct at `i`. -/
def appendFields (s : Schema) (i : Nat) (extra : List FieldDef) : Schema :=
  ⟨s.defs.modify i fun d => { d with fields := d.fields ++ extra }⟩

section

variable {s : Schema} {i : Nat} {d : StructDef} (extra : List FieldDef)

theorem appendFields_self (located : s.defs[i]? = some d) :
    (s.appendFields i extra).defs[i]? = some { d with fields := d.fields ++ extra } := by
  simp [appendFields, located]

theorem appendFields_of_ne {j : Nat} (other : j ≠ i) :
    (s.appendFields i extra).defs[j]? = s.defs[j]? := by
  simp [appendFields, Ne.symm other]

end

end Schema

namespace Decode

variable {α β : Type}

/-- With nothing left to read, the decoder runs out of input. -/
def Starves (d : Decode α) : Prop :=
  ∀ ⦃c : Cursor⦄, c.rest = [] → ∃ needed c', d c = .error (.unexpectedEnd needed c.size) c'

theorem Starves.bind {d : Decode α} (h : Starves d) (f : α → Decode β) : Starves (d >>= f) := by
  intro c empty
  obtain ⟨needed, c', failed⟩ := h empty
  exact ⟨needed, c', bind_of_error failed⟩

theorem starves_bytes {n : Nat} (positive : 0 < n) : Starves (bytes n) := by
  intro c empty
  have short : c.rest.length < n := by rwa [empty]
  exact ⟨_, _, bytes_of_lt short⟩

theorem starves_scalar (t : ScalarType) : Starves (scalar t) := (starves_bytes t.size_pos).bind _

theorem starves_length : Starves length := (starves_scalar (.word .u32)).bind _

theorem starves_text : Starves text := starves_length.bind _

theorem starves_list (item : Decode α) : Starves (list item) := (starves_length.bind _).bind _

theorem starves_option (item : Decode α) : Starves (option item) := (starves_scalar .bool).bind _

end Decode

namespace Value

section Starving

variable {struct : Nat → Decode Value}

theorem starves_decodeType {type : FieldType}
    (each : ∀ j, type.struct? = some j → (struct j).Starves) :
    (decodeType struct type).Starves := by
  cases type with
  | primitive p =>
      cases p with
      | scalar t => exact (Decode.starves_scalar t).bind _
      | text => exact Decode.starves_text.bind _
  | struct index => exact each index rfl
  | array element => exact (Decode.starves_list _).bind _

theorem starves_decodeFields {fs : List FieldDef} (nonempty : fs ≠ [])
    (each : ∀ f ∈ fs, ∀ j, f.type.struct? = some j → (struct j).Starves) :
    (decodeFields struct fs).Starves := by
  obtain ⟨f, rest, rfl⟩ := List.exists_cons_of_ne_nil nonempty
  rw [decodeFields, decodeFieldsWith]
  cases f.optional with
  | false => exact (starves_decodeType (each f (List.mem_cons_self ..))).bind _
  | true => exact (Decode.starves_option _).bind _

end Starving

theorem starves_decodeStruct {schema : Schema} (grounded : schema.Grounded) {depth index : Nat}
    (bound : index < schema.defs.length) (deep : schema.rank index < depth) :
    (decodeStruct schema depth index).Starves := by
  induction depth generalizing index with
  | zero => exact absurd deep (Nat.not_lt_zero _)
  | succ depth ih =>
      have located := List.getElem?_eq_getElem bound
      have nonempty := grounded.fields_nonempty _ (List.getElem_mem bound)
      rw [decodeStruct_succ located]
      refine (starves_decodeFields nonempty ?_).bind _
      intro f member j leads
      have refers : schema.Refers index j := ⟨_, located, f, member, leads⟩
      have lower := grounded.rank_lt_of_refers refers
      exact ih (grounded.refers_lt refers) (by omega)

theorem starves_decodeAt {schema : Schema} (grounded : schema.Grounded) {index : Nat}
    (bound : index < schema.defs.length) : (decodeAt schema index).Starves := by
  rw [decodeAt_eq grounded]
  exact starves_decodeStruct grounded bound (grounded.rank_lt_length bound)

theorem decodeFields_append (struct : Nat → Decode Value) (fs gs : List FieldDef) :
    decodeFields struct (fs ++ gs) =
      decodeFields struct fs >>= fun entries => (entries ++ ·) <$> decodeFields struct gs := by
  rw [decodeFields]
  induction fs with
  | nil => simp [decodeFieldsWith]
  | cons f rest ih =>
      rw [List.cons_append, decodeFieldsWith, decodeFieldsWith, ih]
      cases f.optional with
      | false => simp
      | true =>
          simp only [if_true, bind_assoc]
          apply congrArg
          funext present
          cases present with
          | none => simp
          | some v => simp

theorem fieldsBytes_append_ok {d : StructDef} {value : FieldDef → Option (Except WireError Bytes)}
    {fs gs : List FieldDef} {raw : Bytes} (h : fieldsBytes d value (fs ++ gs) = .ok raw) :
    ∃ head tail, fieldsBytes d value fs = .ok head ∧ raw = head ++ tail := by
  induction fs generalizing raw with
  | nil => exact ⟨[], raw, rfl, rfl⟩
  | cons f rest ih =>
      obtain ⟨first, others, written, later, rfl⟩ := fieldsBytes_cons_ok.mp h
      obtain ⟨head, tail, known, rfl⟩ := ih later
      refine ⟨first ++ head, tail, fieldsBytes_cons_ok.mpr ⟨first, head, written, known, rfl⟩, ?_⟩
      rw [List.append_assoc]

theorem bytesItems_congr {s s' : Schema} {items : List Value} {element : FieldType}
    (each : ∀ v ∈ items, bytesAs s v element = bytesAs s' v element) :
    bytesItems s items element = bytesItems s' items element := by
  induction items with
  | nil => rfl
  | cons item rest ih =>
      rw [bytesItems, bytesItems, each item (List.mem_cons_self ..),
        ih fun v member => each v (List.mem_cons_of_mem item member)]

/-- The bytes of a value depend only on the structs that its type leads to. -/
theorem bytesAs_congr {s s' : Schema} {v : Value} {type : FieldType}
    (same : ∀ j k, type.struct? = some j → Relation.ReflTransGen s.Refers j k →
      s.defs[k]? = s'.defs[k]?) : bytesAs s v type = bytesAs s' v type := by
  induction v generalizing type with
  | scalar t x => rcases type with (u | _) | _ | _ <;> rfl
  | text t => rcases type with (_ | _) | _ | _ <;> rfl
  | array items ih =>
      cases type with
      | array element =>
          have each : ∀ v ∈ items, bytesAs s v element = bytesAs s' v element :=
            fun v member => ih v member same
          rw [bytesAs, bytesAs, bytesItems_congr each]
      | _ => rfl
  | object name fields ih =>
      cases type with
      | struct index =>
          have known : structFor s index name fields = structFor s' index name fields := by
            rw [structFor, structFor, expectDef, expectDef, same index index rfl .refl]
          rw [bytesAs, bytesAs, known]
          cases found : structFor s' index name fields with
          | error e => rfl
          | ok d =>
              rw [found] at known
              have located := (structFor_eq_ok.mp known).1.1
              refine fieldsBytes_congr ?_
              intro f member
              rw [bytesNamed_eq, bytesNamed_eq]
              apply Option.map_congr
              intro v stored
              apply ih f.name v (mem_of_lookup stored)
              intro j k leads path
              exact same index k rfl (.head ⟨d, located, f, member, leads⟩ path)
      | _ => rfl

/-- The bytes of some fields of a struct are read as the canonical entries of these fields. -/
theorem reads_part {schema : Schema} (wf : schema.WellFormed) {index : Nat} {d e : StructDef}
    (located : schema.defs[index]? = some d) {fs : List FieldDef} (part : fs.Sublist d.fields)
    {fields : List (String × Value)} {raw : Bytes}
    (written : fieldsBytes e (fun f => bytesNamed schema fields f.name f.type) fs = .ok raw)
    (small : raw.length < 2 ^ 32) (arrays : longestEntries fields ≤ maxArrayElements) :
    ∃ k ≤ elementsEntries fields, (decodeFields (decodeAt schema) fs).Reads raw k
      (fs.filterMap fun f => (canonNamed schema fields f.name).map fun v => (f.name, v)) := by
  have nodup := (wf.field_names_nodup d (List.mem_of_getElem? located)).sublist (part.map _)
  have total := sum_lookup_le elements nodup fields
  rw [List.map_map, ← elementsEntries_eq] at total
  have each : ∀ f ∈ fs, ∀ v r, lookup f.name fields = some v → bytesAs schema v f.type = .ok r →
      r.length < 2 ^ 32 → ∃ k ≤ v.elements,
        (decodeType (decodeAt schema) f.type).Reads r k (canon schema v) := by
    intro f member v r stored bytes short
    rw [decodeAt_eq wf.grounded]
    apply reads_decodeType wf bytes short
    · exact Nat.le_trans (longestEntries_le (mem_of_lookup stored)) arrays
    · intro j leads
      have refers : schema.Refers index j := ⟨d, located, f, part.subset member, leads⟩
      exact wf.grounded.rank_lt_length (wf.grounded.refers_lt refers)
  obtain ⟨k, few, reads⟩ := reads_decodeFields written small each
  exact ⟨k, Nat.le_trans few total, reads⟩

/-- An object with those of its fields that the struct has. -/
def restrict (d : StructDef) : Value → Value
  | .object name fields => .object name (fields.filter fun entry => (d.field? entry.1).isSome)
  | v => v

theorem canon_restrict {schema : Schema} {name : String} {d : StructDef}
    (found : schema.def? name = some d) (fields : List (String × Value)) :
    canon schema (restrict d (.object name fields)) =
      .object name (d.fields.filterMap fun f =>
        (canonNamed schema fields f.name).map fun v => (f.name, v)) := by
  rw [restrict, canon, found]
  refine congrArg (Value.object name) (List.filterMap_congr ?_)
  intro f member
  have known : (d.field? f.name).isSome = true :=
    List.find?_isSome.mpr ⟨f, member, beq_iff_eq.mpr rfl⟩
  rw [canonNamed_eq, canonNamed_eq,
    lookup_filter (fun key => (d.field? key).isSome) known fields]

/-- No field of the struct that was appended to leads to that struct. -/
theorem fieldsBytes_appendFields {s : Schema} {i : Nat} {extra : List FieldDef}
    (acyclic : ¬ Relation.TransGen (s.appendFields i extra).Refers i i) {d : StructDef}
    (located : s.defs[i]? = some d) (e : StructDef) (fields : List (String × Value)) :
    fieldsBytes e (fun f => bytesNamed (s.appendFields i extra) fields f.name f.type) d.fields =
      fieldsBytes e (fun f => bytesNamed s fields f.name f.type) d.fields := by
  refine fieldsBytes_congr ?_
  intro f member
  rw [bytesNamed_eq, bytesNamed_eq]
  apply Option.map_congr
  intro v _
  apply bytesAs_congr
  intro j k leads path
  apply Schema.appendFields_of_ne
  rintro rfl
  have refers : (s.appendFields k extra).Refers k j :=
    ⟨_, Schema.appendFields_self extra located, f, List.mem_append_left extra member, leads⟩
  exact acyclic (.head' refers path)

theorem fieldsBytes_of_encode {schema : Schema} {index : Nat} {d : StructDef}
    (located : schema.defs[index]? = some d) {v : Value} {raw : Bytes}
    (placed : structIndex schema v = .ok index) (encoded : encode schema v = .ok raw) :
    ∃ fields, v = .object d.name fields ∧
      fieldsBytes d (fun f => bytesNamed schema fields f.name f.type) d.fields = .ok raw := by
  obtain ⟨_, again, written⟩ := encode_eq_ok.mp encoded
  cases placed.symm.trans again
  cases v with
  | object name fields =>
      obtain ⟨_, e, same, found, bytes⟩ := bytesAs_object_ok.mp written
      cases same
      obtain ⟨⟨there, rfl⟩, -⟩ := structFor_eq_ok.mp found
      cases located.symm.trans there
      exact ⟨fields, rfl, bytes⟩
  | _ => cases written

section Appended

variable {s : Schema} {i : Nat} {extra : List FieldDef} {d : StructDef}
  (wf' : (s.appendFields i extra).WellFormed) (located : s.defs[i]? = some d)
  {v : Value} {raw : Bytes} (small : raw.length ≤ maxSerializedSize) (within : v.WithinLimits)
include wf' located small within

theorem decode_of_appended (wf : s.WellFormed)
    (placed : structIndex (s.appendFields i extra) v = .ok i)
    (encoded : encode (s.appendFields i extra) v = .ok raw) :
    decode s i raw = .ok (canon s (restrict d v)) := by
  obtain ⟨fields, rfl, written⟩ :=
    fieldsBytes_of_encode (Schema.appendFields_self extra located) placed encoded
  obtain ⟨head, tail, old, rfl⟩ := fieldsBytes_append_ok written
  rw [fieldsBytes_appendFields (wf'.acyclic i) located] at old
  have short : head.length < 2 ^ 32 := by
    rw [List.length_append] at small
    exact Nat.lt_of_le_of_lt (Nat.le_trans (Nat.le_add_right ..) small) (by decide)
  obtain ⟨k, few, reads⟩ := reads_part wf located (.refl _) old short within.arrays
  have run := (reads.map (Value.object d.name)).ofBytes (Nat.le_trans few within.total) tail
  rw [← decodeAt_unfold wf.grounded located] at run
  rw [canon_restrict (wf.def?_name located)]
  exact Decode.payload_of_ok small run

theorem decode_without_appended (nonempty : extra ≠ []) (placed : structIndex s v = .ok i)
    (encoded : encode s v = .ok raw) :
    ∃ needed, decode (s.appendFields i extra) i raw =
      .error (.unexpectedEnd needed raw.length) := by
  have located' := Schema.appendFields_self extra located
  obtain ⟨fields, rfl, written⟩ := fieldsBytes_of_encode located placed encoded
  rw [← fieldsBytes_appendFields (wf'.acyclic i) located] at written
  have short : raw.length < 2 ^ 32 := Nat.lt_of_le_of_lt small (by decide)
  obtain ⟨k, few, reads⟩ :=
    reads_part wf' located' (List.sublist_append_left ..) written short within.arrays
  have run := reads.ofBytes (Nat.le_trans few within.total) []
  rw [List.append_nil] at run
  have starves : (decodeFields (decodeAt (s.appendFields i extra)) extra).Starves := by
    apply starves_decodeFields nonempty
    intro f member j leads
    apply starves_decodeAt wf'.grounded
    exact wf'.grounded.refers_lt ⟨_, located', f, List.mem_append_right _ member, leads⟩
  obtain ⟨needed, c, failed⟩ := starves (c := ⟨[], raw.length, k⟩) rfl
  refine ⟨needed, Decode.payload_of_error (c := c) small ?_⟩
  rw [decodeAt_unfold wf'.grounded located', decodeFields_append]
  apply bind_of_error
  rw [bind_of_ok run]
  exact bind_of_error failed

end Appended

/-- A value with fields appended to its struct is decoded by the schema as it was, without these
fields and in canonical form. A value without them is not decoded by the schema as it is: the input
ends where they should start. -/
theorem decode_appendFields {s : Schema} {i : Nat} {extra : List FieldDef} {d : StructDef}
    (wf : s.WellFormed) (wf' : (s.appendFields i extra).WellFormed) (nonempty : extra ≠ [])
    (located : s.defs[i]? = some d) {v : Value} {raw : Bytes}
    (small : raw.length ≤ maxSerializedSize) (within : v.WithinLimits) :
    (structIndex (s.appendFields i extra) v = .ok i →
      encode (s.appendFields i extra) v = .ok raw →
        decode s i raw = .ok (canon s (restrict d v))) ∧
      (structIndex s v = .ok i → encode s v = .ok raw →
        ∃ needed, decode (s.appendFields i extra) i raw =
          .error (.unexpectedEnd needed raw.length)) :=
  ⟨decode_of_appended wf' located small within wf,
    decode_without_appended wf' located small within nonempty⟩

/-- Where an item came from, if known, and its codes. -/
def itemSupplement : List FieldDef :=
  [⟨"origin", .struct 0, true⟩,
    Catalog.required "codes" (.array (.primitive (.scalar (.word .u16))))]

theorem supplemented_wellFormed : (Catalog.schema.appendFields 2 itemSupplement).WellFormed := by
  have grounded : (Catalog.schema.appendFields 2 itemSupplement).Grounded :=
    .of_backward (by decide) (by decide)
  refine ⟨by decide, grounded.fields_nonempty, by decide, grounded.in_range, grounded.acyclic, ?_⟩
  simp [Schema.appendFields, Catalog.schema, Catalog.pointDef, Catalog.allPrimitivesDef,
    Catalog.itemDef, Catalog.inventoryDef, Catalog.required, Catalog.requiredWord, itemSupplement]

/-- An item of unknown origin with two codes, its fields out of order and one given twice. -/
def codedItem : Value :=
  .object "Item" [
    ("codes", .array [.scalar (.word .u16) 1, .scalar (.word .u16) 513]),
    ("name", .text "bolt"),
    ("weights", .array []),
    ("id", .scalar (.word .u32) 7),
    ("tags", .array [.text "é", .text ""]),
    ("id", .scalar (.word .u32) 8)]

def plainItem : Value :=
  .object "Item" [
    ("id", .scalar (.word .u32) 7),
    ("name", .text "bolt"),
    ("tags", .array [.text "é", .text ""]),
    ("weights", .array [])]

def plainItemBytes : Bytes := [
  7, 0, 0, 0, 4, 0, 0, 0, 98, 111, 108, 116, 2, 0, 0, 0, 2, 0, 0, 0, 195, 169, 0, 0, 0, 0,
  0, 0, 0, 0]

def codedItemBytes : Bytes := plainItemBytes ++ [0, 2, 0, 0, 0, 1, 0, 1, 2]

theorem decode_appendFields_item :
    decode Catalog.schema 2 codedItemBytes = .ok plainItem ∧
      ∃ needed, decode (Catalog.schema.appendFields 2 itemSupplement) 2 plainItemBytes =
        .error (.unexpectedEnd needed 30) := by
  have coded : codedItem.WithinLimits := ⟨by decide, by decide⟩
  have plain : plainItem.WithinLimits := ⟨by decide, by decide⟩
  have written : bytesAs (Catalog.schema.appendFields 2 itemSupplement) codedItem (.struct 2) =
      .ok codedItemBytes := by
    decide +kernel
  have writtenPlain : bytesAs Catalog.schema plainItem (.struct 2) = .ok plainItemBytes := by
    decide +kernel
  have item : Catalog.schema.def? "Item" = some Catalog.itemDef :=
    Catalog.schema_wellFormed.def?_name (i := 2) rfl
  have normal : canon Catalog.schema (restrict Catalog.itemDef codedItem) = plainItem := by
    rw [codedItem, restrict, canon, item]
    rfl
  constructor
  · rw [← normal]
    exact (decode_appendFields Catalog.schema_wellFormed supplemented_wellFormed (by decide) rfl
      (by decide) coded).1 (structIndex_of_bytesAs supplemented_wellFormed written)
      (encode_of_bytesAs supplemented_wellFormed written)
  · exact (decode_appendFields Catalog.schema_wellFormed supplemented_wellFormed (by decide) rfl
      (by decide) plain).2 (structIndex_of_bytesAs Catalog.schema_wellFormed writtenPlain)
      (encode_of_bytesAs Catalog.schema_wellFormed writtenPlain)

end Value
end SchemaWire

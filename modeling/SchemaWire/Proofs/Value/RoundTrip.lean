import SchemaWire.Proofs.Catalog.Schema
import SchemaWire.Proofs.Value.Canonical
import SchemaWire.Proofs.Value.Recursion

/-!
Decoding undoes encoding: the bytes of a value within the limits are read back as its canonical
form.
-/
namespace SchemaWire.Value

theorem fieldBytes_ne_nil {d : StructDef} {f : FieldDef} {value : Option (Except WireError Bytes)}
    {raw : Bytes} (h : fieldBytes d f value = .ok raw)
    (solid : ∀ raw, value = some (.ok raw) → raw ≠ []) : raw ≠ [] := by
  obtain ⟨name, type, optional⟩ := f
  cases value with
  | none =>
      cases optional with
      | false => cases h
      | true => cases h; exact List.cons_ne_nil _ _
  | some value =>
      cases optional with
      | false => exact solid raw (congrArg some h)
      | true =>
          obtain ⟨body, -, flagged⟩ := except_bind_eq_ok.mp h
          cases flagged
          exact List.cons_ne_nil _ _

/-- No value of a well-formed schema takes no bytes. -/
theorem bytesAs_ne_nil {schema : Schema} (wf : schema.WellFormed) {v : Value} {type : FieldType}
    {raw : Bytes} (h : bytesAs schema v type = .ok raw) : raw ≠ [] := by
  induction v generalizing type raw with
  | scalar t x =>
      obtain ⟨-, rfl⟩ := bytesAs_scalar_ok.mp h
      exact List.ne_nil_of_length_pos (by rw [t.toBytes_length]; exact t.size_pos)
  | text s =>
      obtain ⟨-, rfl⟩ := bytesAs_text_ok.mp h
      exact List.cons_ne_nil _ _
  | array items ih =>
      obtain ⟨element, body, -, -, rfl⟩ := bytesAs_array_ok.mp h
      exact List.cons_ne_nil _ _
  | object name fields ih =>
      -- The first field of the struct takes a byte, be it only for its absence.
      obtain ⟨index, d, -, found, written⟩ := bytesAs_object_ok.mp h
      have member := List.mem_of_getElem? (structFor_eq_ok.mp found).1.1
      obtain ⟨f, rest, shape⟩ := List.exists_cons_of_ne_nil (wf.fields_nonempty d member)
      rw [shape] at written
      obtain ⟨head, tail, first, -, rfl⟩ := fieldsBytes_cons_ok.mp written
      refine List.append_ne_nil_of_left_ne_nil (fieldBytes_ne_nil first ?_) _
      intro raw stored
      rw [bytesNamed_eq] at stored
      obtain ⟨v, located, bytes⟩ := Option.map_eq_some_iff.mp stored
      exact ih f.name v (mem_of_lookup located) bytes

/-- The definition that an object is written by is the one its name finds. -/
theorem def?_of_structFor {schema : Schema} (wf : schema.WellFormed) {index : Nat} {name : String}
    {fields : List (String × Value)} {d : StructDef}
    (h : structFor schema index name fields = .ok d) : schema.def? name = some d := by
  obtain ⟨⟨located, rfl⟩, -⟩ := structFor_eq_ok.mp h
  exact wf.def?_name located

theorem reads_decodeFields {schema : Schema} {struct : Nat → Decode Value} {d : StructDef}
    {fields : List (String × Value)} {fs : List FieldDef} {raw : Bytes}
    (h : fieldsBytes d (fun f => bytesNamed schema fields f.name f.type) fs = .ok raw)
    (small : raw.length < 2 ^ 32)
    (each : ∀ f ∈ fs, ∀ v r, lookup f.name fields = some v → bytesAs schema v f.type = .ok r →
      r.length < 2 ^ 32 → ∃ k ≤ v.elements, (decodeType struct f.type).Reads r k (canon schema v)) :
    ∃ k ≤ (fs.map fun f => ((lookup f.name fields).map elements).getD 0).sum,
      (decodeFields struct fs).Reads raw k
        (fs.filterMap fun f => (canonNamed schema fields f.name).map fun v => (f.name, v)) := by
  induction fs generalizing raw with
  | nil =>
      cases h
      exact ⟨0, Nat.le_refl 0, Decode.Reads.pure []⟩
  | cons f rest ih =>
      obtain ⟨head, tail, first, second, rfl⟩ := fieldsBytes_cons_ok.mp h
      rw [List.length_append] at small
      obtain ⟨ks, fewer, others⟩ := ih second (by omega) fun g member =>
        each g (List.mem_cons_of_mem f member)
      have here := each f (List.mem_cons_self ..)
      rw [List.map_cons, List.sum_cons, List.filterMap_cons, canonNamed_eq, decodeFields,
        decodeFieldsWith]
      rw [bytesNamed_eq] at first
      cases stored : lookup f.name fields with
      | none =>
          rw [stored] at first
          cases optional : f.optional with
          | false => rw [Option.map_none, fieldBytes, optional] at first; cases first
          | true =>
              rw [Option.map_none, fieldBytes, optional, if_pos rfl] at first
              cases first
              refine ⟨0 + ks, Nat.add_le_add_left fewer 0, ?_⟩
              exact (Decode.reads_option_none _).bind others
      | some v =>
          rw [stored, Option.map_some, fieldBytes] at first
          cases optional : f.optional with
          | false =>
              rw [optional] at first
              obtain ⟨k, within, value⟩ := here v head stored first (by omega)
              refine ⟨k + ks, Nat.add_le_add within fewer, ?_⟩
              exact value.bind (others.map _)
          | true =>
              rw [optional] at first
              obtain ⟨body, bytes, flagged⟩ := except_bind_eq_ok.mp first
              cases flagged
              rw [List.length_append] at small
              obtain ⟨k, within, value⟩ := here v body stored bytes (by omega)
              refine ⟨k + ks, Nat.add_le_add within fewer, ?_⟩
              exact (Decode.reads_option_some value).bind (others.map _)

theorem reads_items {schema : Schema} (wf : schema.WellFormed) {item : Decode Value}
    {items : List Value} {element : FieldType} {raw : Bytes}
    (h : bytesItems schema items element = .ok raw) (small : raw.length < 2 ^ 32)
    (each : ∀ v ∈ items, ∀ r, bytesAs schema v element = .ok r → r.length < 2 ^ 32 →
      ∃ k ≤ v.elements, item.Reads r k (canon schema v)) :
    ∃ k ≤ elementsItems items,
      Decode.Row (fun r k v => item.Reads r k v ∧ r ≠ []) raw k (canonItems schema items) := by
  induction items generalizing raw with
  | nil =>
      cases h
      exact ⟨0, Nat.le_refl 0, .nil⟩
  | cons v rest ih =>
      obtain ⟨head, tail, first, second, rfl⟩ := bytesItems_cons_ok.mp h
      rw [List.length_append] at small
      obtain ⟨k, within, value⟩ := each v (List.mem_cons_self ..) head first (by omega)
      obtain ⟨ks, fewer, others⟩ := ih second (by omega) fun w member =>
        each w (List.mem_cons_of_mem v member)
      exact ⟨k + ks, Nat.add_le_add within fewer, .cons ⟨value, bytesAs_ne_nil wf first⟩ others⟩

/-- The bytes of a value are read as its canonical form, by a decoder that goes deep enough. -/
theorem reads_decodeType {schema : Schema} (wf : schema.WellFormed) {v : Value} {type : FieldType}
    {raw : Bytes} (h : bytesAs schema v type = .ok raw) (small : raw.length < 2 ^ 32)
    (arrays : v.longest ≤ maxArrayElements) {depth : Nat}
    (deep : ∀ j, type.struct? = some j → schema.rank j < depth) :
    ∃ k ≤ v.elements,
      (decodeType (decodeStruct schema depth) type).Reads raw k (canon schema v) := by
  induction v generalizing type raw depth with
  | scalar t x =>
      obtain ⟨rfl, rfl⟩ := bytesAs_scalar_ok.mp h
      exact ⟨0, Nat.le_refl 0, (Decode.reads_scalar t x).map _⟩
  | text s =>
      obtain ⟨rfl, rfl⟩ := bytesAs_text_ok.mp h
      have short : (bytesOfText s).length < 2 ^ 32 := by
        rw [textBytes_length] at small
        rw [bytesOfText_length]
        omega
      exact ⟨0, Nat.le_refl 0, (Decode.reads_text short).map _⟩
  | array items ih =>
      obtain ⟨element, body, rfl, written, rfl⟩ := bytesAs_array_ok.mp h
      rw [longest] at arrays
      rw [List.length_append] at small
      obtain ⟨k, within, row⟩ := reads_items wf written (by omega) fun v member r bytes short =>
        ih v member bytes short (Nat.le_trans (longestItems_le member) (by omega)) deep
      have sized : (canonItems schema items).length = items.length := by
        rw [canonItems_eq, List.length_map]
      refine ⟨items.length + k, Nat.add_le_add_left within _, ?_⟩
      have list := Decode.reads_list (by rw [sized]; omega) row
      rw [sized] at list
      exact list.map _
  | object name fields ih =>
      obtain ⟨index, d, rfl, found, written⟩ := bytesAs_object_ok.mp h
      obtain ⟨⟨located, named⟩, -⟩ := structFor_eq_ok.mp found
      have nodup := wf.field_names_nodup d (List.mem_of_getElem? located)
      cases depth with
      | zero => exact absurd (deep index rfl) (Nat.not_lt_zero _)
      | succ depth =>
          have each : ∀ f ∈ d.fields, ∀ v r, lookup f.name fields = some v →
              bytesAs schema v f.type = .ok r → r.length < 2 ^ 32 → ∃ k ≤ v.elements,
                (decodeType (decodeStruct schema depth) f.type).Reads r k (canon schema v) := by
            intro f member v r stored bytes short
            have entry := mem_of_lookup stored
            refine ih f.name v entry bytes short (Nat.le_trans (longestEntries_le entry) arrays) ?_
            -- A reference goes down in rank, so one level less is enough for it.
            intro j leads
            have lower := wf.grounded.rank_lt_of_refers ⟨d, located, f, member, leads⟩
            have upper := deep index rfl
            omega
          obtain ⟨k, within, entries⟩ := reads_decodeFields written small each
          have total := sum_lookup_le elements nodup fields
          rw [List.map_map, ← elementsEntries_eq] at total
          refine ⟨k, Nat.le_trans within total, ?_⟩
          rw [canon, def?_of_structFor wf found, ← named]
          change (decodeStruct schema (depth + 1) index).Reads _ _ _
          rw [decodeStruct_succ located]
          exact entries.map _

theorem decode_bytesAs {schema : Schema} (wf : schema.WellFormed) {v : Value} {index : Nat}
    {raw : Bytes} (written : bytesAs schema v (.struct index) = .ok raw)
    (small : raw.length ≤ maxSerializedSize) (within : v.WithinLimits) :
    decode schema index raw = .ok (canon schema v) := by
  have bound : index < schema.defs.length := by
    cases v with
    | object name fields =>
        obtain ⟨_, d, same, found, -⟩ := bytesAs_object_ok.mp written
        cases same
        exact (List.getElem?_eq_some_iff.mp (structFor_eq_ok.mp found).1.1).1
    | _ => cases written
  have short : raw.length < 2 ^ 32 := Nat.lt_of_le_of_lt small (by decide)
  have deep : ∀ j, (FieldType.struct index).struct? = some j →
      schema.rank j < schema.defs.length := by
    intro j same
    cases same
    exact wf.grounded.rank_lt_length bound
  obtain ⟨k, fewer, reads⟩ := reads_decodeType wf written short within.arrays deep
  have run := reads.ofBytes (Nat.le_trans fewer within.total) []
  rw [List.append_nil] at run
  rw [decode, decodeAt_eq wf.grounded]
  exact Decode.payload_of_ok small run

theorem structIndex_of_bytesAs {schema : Schema} (wf : schema.WellFormed) {v : Value} {index : Nat}
    {raw : Bytes} (h : bytesAs schema v (.struct index) = .ok raw) :
    structIndex schema v = .ok index := by
  cases v with
  | object name fields =>
      obtain ⟨_, d, same, found, -⟩ := bytesAs_object_ok.mp h
      cases same
      obtain ⟨⟨located, named⟩, -⟩ := structFor_eq_ok.mp found
      rw [structIndex, ← named, wf.indexOf?_name located]
  | _ => cases h

theorem encode_of_bytesAs {schema : Schema} (wf : schema.WellFormed) {v : Value} {index : Nat}
    {raw : Bytes} (h : bytesAs schema v (.struct index) = .ok raw) : encode schema v = .ok raw :=
  encode_eq_ok.mpr ⟨index, structIndex_of_bytesAs wf h, h⟩

/-- Encoding and then decoding a value within the limits gives its canonical form, and the value
itself if it has that form. -/
theorem decode_encode {schema : Schema} (wf : schema.WellFormed) {v : Value} {raw : Bytes}
    (encoded : encode schema v = .ok raw) (small : raw.length ≤ maxSerializedSize)
    (within : v.WithinLimits) :
    ∃ index, structIndex schema v = .ok index ∧
      decode schema index raw = .ok (canon schema v) ∧
      (v.Canonical schema → decode schema index raw = .ok v) := by
  obtain ⟨index, placed, written⟩ := encode_eq_ok.mp encoded
  have decoded := decode_bytesAs wf written small within
  refine ⟨index, placed, decoded, ?_⟩
  intro canonical
  rw [decoded, canon_eq_self wf canonical]

/-- An inventory with the fields of every object out of order and two of them given twice. -/
def shuffledInventory : Value :=
  .object "Inventory" [
    ("flags", .array [.scalar .bool true, .scalar .bool false]),
    ("items", .array [.object "Item" [
      ("weights", .array [.scalar (.word .f64) 0x7ff8000000000001]),
      ("tags", .array [.text "é", .text ""]),
      ("id", .scalar (.word .u32) 7),
      ("name", .text "bolt"),
      ("id", .scalar (.word .u32) 8)]]),
    ("owner", .text "Ada"),
    ("grid", .array [.array [], .array [.scalar (.word .u8) 255]]),
    ("origin", .object "Point" [
      ("y", .scalar (.word .f32) 0x80000000), ("x", .scalar (.word .f32) 0x7fc00001)]),
    ("owner", .text "Bob")]

/-- The same inventory in canonical form. -/
def sortedInventory : Value :=
  .object "Inventory" [
    ("owner", .text "Ada"),
    ("origin", .object "Point" [
      ("x", .scalar (.word .f32) 0x7fc00001), ("y", .scalar (.word .f32) 0x80000000)]),
    ("items", .array [.object "Item" [
      ("id", .scalar (.word .u32) 7),
      ("name", .text "bolt"),
      ("tags", .array [.text "é", .text ""]),
      ("weights", .array [.scalar (.word .f64) 0x7ff8000000000001])]]),
    ("grid", .array [.array [], .array [.scalar (.word .u8) 255]]),
    ("flags", .array [.scalar .bool true, .scalar .bool false])]

/-- The wire form of both. -/
def inventoryBytes : Bytes := [
  3, 0, 0, 0, 65, 100, 97, 1, 1, 0, 192, 127, 0, 0, 0, 128, 1, 0, 0, 0, 7, 0, 0, 0, 4, 0, 0, 0,
  98, 111, 108, 116, 2, 0, 0, 0, 2, 0, 0, 0, 195, 169, 0, 0, 0, 0, 1, 0, 0, 0, 1, 0, 0, 0, 0, 0,
  248, 127, 2, 0, 0, 0, 0, 0, 0, 0, 1, 0, 0, 0, 255, 2, 0, 0, 0, 1, 0]

theorem bytesAs_shuffledInventory :
    bytesAs Catalog.schema shuffledInventory (.struct 3) = .ok inventoryBytes := by
  decide +kernel

theorem canon_shuffledInventory :
    canon Catalog.schema shuffledInventory = sortedInventory := by
  have wf := Catalog.schema_wellFormed
  have point : Catalog.schema.def? "Point" = some Catalog.pointDef := wf.def?_name (i := 0) rfl
  have item : Catalog.schema.def? "Item" = some Catalog.itemDef := wf.def?_name (i := 2) rfl
  have inventory : Catalog.schema.def? "Inventory" = some Catalog.inventoryDef :=
    wf.def?_name (i := 3) rfl
  simp [shuffledInventory, sortedInventory, canon, canonItems, canonNamed, point, item, inventory,
    Catalog.pointDef, Catalog.itemDef, Catalog.inventoryDef, Catalog.required,
    Catalog.requiredWord]

theorem decode_encode_shuffledInventory :
    encode Catalog.schema shuffledInventory = .ok inventoryBytes ∧
      decode Catalog.schema 3 inventoryBytes = .ok sortedInventory := by
  have written := bytesAs_shuffledInventory
  have encoded := encode_of_bytesAs Catalog.schema_wellFormed written
  have within : shuffledInventory.WithinLimits := ⟨by decide, by decide⟩
  obtain ⟨index, placed, decoded, -⟩ :=
    decode_encode Catalog.schema_wellFormed encoded (by decide) within
  cases placed.symm.trans (structIndex_of_bytesAs Catalog.schema_wellFormed written)
  rw [canon_shuffledInventory] at decoded
  exact ⟨encoded, decoded⟩

end SchemaWire.Value

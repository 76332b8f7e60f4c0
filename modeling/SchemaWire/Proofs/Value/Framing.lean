import SchemaWire.Proofs.Value.RoundTrip
import SchemaWire.Proofs.Wire.Frame

/-!
Values behind frame headers. The header tells a struct by its position plus one in 16 bits, so a
framed value is decoded as the struct it was encoded as exactly if that number fits.
-/
namespace SchemaWire

namespace Schema

theorem typeIdAt_toNat (index : Nat) : (typeIdAt index).toNat = (index + 1) % 2 ^ 16 :=
  UInt16.toNat_ofNat'

/-- The position that the type id of a struct leads back to. -/
theorem indexOfTypeId?_typeIdAt {s : Schema} {index : Nat} (bound : index < s.defs.length) :
    s.indexOfTypeId? (typeIdAt index) =
      if (index + 1) % 2 ^ 16 = 0 then none else some ((index + 1) % 2 ^ 16 - 1) := by
  have lower : (index + 1) % 2 ^ 16 - 1 < s.defs.length := by
    have most := Nat.mod_le (index + 1) (2 ^ 16)
    omega
  simp only [indexOfTypeId?, typeIdAt_toNat, if_pos lower, beq_iff_eq]

end Schema

namespace Value

theorem encodeMessage_of_encode {schema : Schema} {v : Value} {index : Nat} {raw : Bytes}
    (placed : structIndex schema v = .ok index) (encoded : encode schema v = .ok raw) :
    encodeMessage schema v = .ok (Frame.encode (Schema.typeIdAt index) raw) := by
  rw [encodeMessage, placed, encoded]
  rfl

/-- A frame is decoded as the struct that its type id leads to. -/
theorem decodeMessage_frame {schema : Schema} {index : Nat} (bound : index < schema.defs.length)
    {raw : Bytes} (small : raw.length ≤ maxSerializedSize) :
    decodeMessage schema (Frame.encode (Schema.typeIdAt index) raw) =
      if (index + 1) % 2 ^ 16 = 0 then .error (.unknownTypeId (Schema.typeIdAt index))
      else decode schema ((index + 1) % 2 ^ 16 - 1) raw := by
  have parsed := Frame.parse_encode (Schema.typeIdAt index) small []
  rw [List.append_nil] at parsed
  have located : schema.indexOfTypeId? (Frame.header (Schema.typeIdAt index) raw).typeId = _ :=
    Schema.indexOfTypeId?_typeIdAt bound
  rw [decodeMessage, parsed]
  simp only [bind, Except.bind, located]
  by_cases zero : (index + 1) % 2 ^ 16 = 0
  · simp only [if_pos zero]
    rfl
  · simp only [if_neg zero]

/-- Whatever is decoded as a struct is an object of that struct. -/
theorem structIndex_of_decode {schema : Schema} (wf : schema.WellFormed) {index : Nat} {raw : Bytes}
    {v : Value} (decoded : decode schema index raw = .ok v) : structIndex schema v = .ok index := by
  obtain ⟨c, run⟩ := Decode.run_of_payload decoded
  rw [decodeAt] at run
  cases depth : depthBound schema (.ofBytes raw) with
  | zero =>
      rw [depth, decodeStruct, decodeStructWith] at run
      split at run <;> cases run
  | succ depth' =>
      rw [depth, decodeStruct, decodeStructWith] at run
      cases located : schema.defs[index]? with
      | none =>
          rw [located] at run
          cases run
      | some d =>
          rw [located] at run
          obtain ⟨fields, c', -, made⟩ := bind_eq_ok.mp run
          cases made
          rw [structIndex, wf.indexOf?_name located]

theorem structIndex_lt {schema : Schema} {v : Value} {index : Nat}
    (placed : structIndex schema v = .ok index) : index < schema.defs.length := by
  cases v with
  | object name fields =>
      rw [structIndex] at placed
      cases found : schema.indexOf? name with
      | none => rw [found] at placed; cases placed
      | some i =>
          rw [found] at placed
          cases placed
          rw [Schema.indexOf?_eq_findIdx?] at found
          exact (List.findIdx?_eq_some_iff_getElem.mp found).1
  | _ => cases placed

/-- Canonical form keeps the struct. -/
theorem structIndex_canon (schema : Schema) (v : Value) :
    structIndex schema (canon schema v) = structIndex schema v := by
  cases v with
  | object name fields =>
      rw [canon]
      split <;> rfl
  | _ => rfl

/-- Framing a value within the limits always succeeds. The frame is decoded as its canonical form
exactly if its struct has a type id of its own, and at any rate as the struct that the low 16 bits
of the type id tell. -/
theorem decodeMessage_encodeMessage {schema : Schema} (wf : schema.WellFormed) {v : Value}
    {raw : Bytes} (encoded : encode schema v = .ok raw) (small : raw.length ≤ maxSerializedSize)
    (within : v.WithinLimits) :
    ∃ index message, structIndex schema v = .ok index ∧ encodeMessage schema v = .ok message ∧
      (decodeMessage schema message = .ok (canon schema v) ↔ index + 1 < 2 ^ 16) ∧
      ∀ w, decodeMessage schema message = .ok w →
        structIndex schema w = .ok ((index + 1) % 2 ^ 16 - 1) := by
  obtain ⟨index, placed, written⟩ := encode_eq_ok.mp encoded
  have framed := decodeMessage_frame (structIndex_lt placed) small
  have told : ∀ w, decodeMessage schema (Frame.encode (Schema.typeIdAt index) raw) = .ok w →
      structIndex schema w = .ok ((index + 1) % 2 ^ 16 - 1) := by
    intro w decoded
    rw [framed] at decoded
    split at decoded
    · cases decoded
    · exact structIndex_of_decode wf decoded
  refine ⟨index, _, placed, encodeMessage_of_encode placed encoded, ⟨?_, ?_⟩, told⟩
  · intro decoded
    have same := told _ decoded
    rw [structIndex_canon, placed] at same
    have position : index = (index + 1) % 2 ^ 16 - 1 := Except.ok.inj same
    have fewer := Nat.mod_lt (index + 1) (Nat.two_pow_pos 16)
    -- A type id of zero would not have been decoded at all.
    have positive : (index + 1) % 2 ^ 16 ≠ 0 := by
      intro zero
      rw [framed, if_pos zero] at decoded
      cases decoded
    omega
  · intro fits
    have exact : (index + 1) % 2 ^ 16 = index + 1 := Nat.mod_eq_of_lt fits
    rw [framed, exact, if_neg (Nat.succ_ne_zero index)]
    exact decode_bytesAs wf written small within

theorem decodeMessage_encodeMessage_shuffledInventory :
    encodeMessage Catalog.schema shuffledInventory = .ok (Frame.encode 4 inventoryBytes) ∧
      decodeMessage Catalog.schema (Frame.encode 4 inventoryBytes) = .ok sortedInventory := by
  have written := bytesAs_shuffledInventory
  have encoded := encode_of_bytesAs Catalog.schema_wellFormed written
  have third := structIndex_of_bytesAs Catalog.schema_wellFormed written
  have within : shuffledInventory.WithinLimits := ⟨by decide, by decide⟩
  obtain ⟨index, message, placed, framed, decoded, -⟩ :=
    decodeMessage_encodeMessage Catalog.schema_wellFormed encoded (by decide) within
  cases third.symm.trans placed
  have same := framed.symm.trans (encodeMessage_of_encode third encoded)
  cases same
  rw [canon_shuffledInventory] at decoded
  exact ⟨framed, decoded.mpr (by decide)⟩

/-! A schema of 65536 structs, with names of three characters for all but the first. -/

def crowdLetters : List Char := "ABCDEFGHIJKLMNOPQRSTUVWXYZabcdefghijklmnopqrstuvwxyz".toList

/-- Second and third characters, chosen so that no name is a reserved word. -/
def crowdMarks : List Char := "bcdfghjklmpqvwxzBCDFGHJKLMPQVWXZ0245789_".toList

def crowdName (i : Nat) : String :=
  .ofList [crowdLetters.getD (i / 1600) '_', crowdMarks.getD (i / 40 % 40) '_',
    crowdMarks.getD (i % 40) '_']

def crowdDef (i : Nat) : StructDef := ⟨crowdName i, [⟨"x", .struct 0, false⟩]⟩

def crowd : Schema where
  defs := ⟨"A", [⟨"x", .primitive (.scalar (.word .u8)), false⟩]⟩ ::
    (List.range 65535).map crowdDef

theorem getD_inj {chars : List Char} (nodup : chars.Nodup) {i j : Nat} {c : Char}
    (hi : i < chars.length) (hj : j < chars.length) (same : chars.getD i c = chars.getD j c) :
    i = j := by
  rw [List.getD_eq_getElem?_getD, List.getD_eq_getElem?_getD, List.getElem?_eq_getElem hi,
    List.getElem?_eq_getElem hj] at same
  exact (List.Nodup.getElem_inj_iff nodup).mp same

theorem crowdName_inj {i j : Nat} (hi : i < 65535) (hj : j < 65535)
    (same : crowdName i = crowdName j) : i = j := by
  have chars := String.ofList_inj.mp same
  simp only [List.cons.injEq, and_true] at chars
  obtain ⟨first, second, third⟩ := chars
  have letters : crowdLetters.length = 52 := by decide
  have marks : crowdMarks.length = 40 := by decide
  have nodup : crowdMarks.Nodup := by decide
  have high : i / 1600 = j / 1600 := getD_inj (by decide) (by omega) (by omega) first
  have middle : i / 40 % 40 = j / 40 % 40 := getD_inj nodup (by omega) (by omega) second
  have low : i % 40 = j % 40 := getD_inj nodup (by omega) (by omega) third
  omega

theorem crowd_getElem?_succ {i : Nat} (bound : i < 65535) :
    crowd.defs[i + 1]? = some (crowdDef i) := by
  rw [crowd, List.getElem?_cons_succ, List.getElem?_map, List.getElem?_range bound, Option.map_some]

theorem crowd_cases {i : Nat} {d : StructDef} (located : crowd.defs[i]? = some d) :
    (i = 0 ∧ d = ⟨"A", [⟨"x", .primitive (.scalar (.word .u8)), false⟩]⟩) ∨
      ∃ k < 65535, i = k + 1 ∧ d = crowdDef k := by
  cases i with
  | zero => exact .inl ⟨rfl, (Option.some.inj located).symm⟩
  | succ k =>
      have bound : k < 65535 := by
        have inside := (List.getElem?_eq_some_iff.mp located).1
        rw [crowd, List.length_cons, List.length_map, List.length_range] at inside
        omega
      rw [crowd_getElem?_succ bound] at located
      exact .inr ⟨k, bound, rfl, (Option.some.inj located).symm⟩

theorem crowd_grounded : crowd.Grounded := by
  apply Schema.Grounded.of_backward
  · intro d defined
    obtain ⟨i, located⟩ := List.mem_iff_getElem?.mp defined
    obtain ⟨-, rfl⟩ | ⟨k, -, -, rfl⟩ := crowd_cases located
    · exact List.cons_ne_nil _ _
    · exact List.cons_ne_nil _ _
  · rintro ⟨d, i⟩ entry f member
    obtain ⟨rfl, rfl⟩ | ⟨k, -, rfl, rfl⟩ := crowd_cases (List.mk_mem_zipIdx_iff_getElem?.mp entry)
    · rw [List.mem_singleton.mp member]
      rfl
    · rw [List.mem_singleton.mp member]
      exact decide_eq_true (Nat.succ_pos k)

theorem crowd_wellFormed : crowd.WellFormed where
  names_nodup := by
    rw [crowd, List.map_cons, List.map_map, List.nodup_cons]
    constructor
    · intro member
      obtain ⟨i, -, same⟩ := List.mem_map.mp member
      have length := congrArg List.length (String.ofList_inj.mp same)
      cases length
    · refine List.Nodup.map_on ?_ List.nodup_range
      intro i hi j hj same
      exact crowdName_inj (List.mem_range.mp hi) (List.mem_range.mp hj) same
  fields_nonempty := crowd_grounded.fields_nonempty
  field_names_nodup := by
    intro d defined
    obtain ⟨i, located⟩ := List.mem_iff_getElem?.mp defined
    obtain ⟨-, rfl⟩ | ⟨k, -, -, rfl⟩ := crowd_cases located
    · exact List.nodup_singleton _
    · exact List.nodup_singleton _
  in_range := crowd_grounded.in_range
  acyclic := crowd_grounded.acyclic
  optional_struct := by
    intro d defined f member optional
    obtain ⟨i, located⟩ := List.mem_iff_getElem?.mp defined
    obtain ⟨-, rfl⟩ | ⟨k, -, -, rfl⟩ := crowd_cases located
    · rw [List.mem_singleton.mp member] at optional
      cases optional
    · rw [List.mem_singleton.mp member] at optional
      cases optional

def crowdEntries : List (String × Value) := [("x", .object "A" [("x", .scalar (.word .u8) 7)])]

/-- An object of one of the structs behind the first. -/
def crowdValue (i : Nat) : Value := .object (crowdName i) crowdEntries

theorem encode_crowdValue {i : Nat} (bound : i < 65535) :
    structIndex crowd (crowdValue i) = .ok (i + 1) ∧ encode crowd (crowdValue i) = .ok [7] := by
  have located := crowd_getElem?_succ bound
  have inner : bytesAs crowd (.object "A" [("x", .scalar (.word .u8) 7)]) (.struct 0) = .ok [7] :=
    bytesAs_object_of_ordered (d := ⟨"A", [⟨"x", .primitive (.scalar (.word .u8)), false⟩]⟩) rfl
      (List.Sublist.refl _) rfl
  have ordered : (crowdEntries.map (·.1)).Sublist ((crowdDef i).fields.map (·.name)) :=
    List.Sublist.refl ["x"]
  have bytes : fieldsBytes (crowdDef i) (fun f => bytesNamed crowd crowdEntries f.name f.type)
      (crowdDef i).fields = .ok [7] :=
    fieldsBytes_cons_ok.mpr ⟨[7], [], inner, rfl, rfl⟩
  have outer := bytesAs_object_of_ordered located ordered bytes
  exact ⟨structIndex_of_bytesAs crowd_wellFormed outer, encode_of_bytesAs crowd_wellFormed outer⟩

/-- The last struct of the crowd gets the type id zero, which stands for no struct. -/
theorem decodeMessage_last_of_crowd :
    crowd.WellFormed ∧ (crowdValue 65534).WithinLimits ∧ encode crowd (crowdValue 65534) = .ok [7] ∧
      encodeMessage crowd (crowdValue 65534) =
        .ok [0x53, 0x44, 0x50, 0x32, 0, 0, 1, 0, 0, 0, 7] ∧
      decodeMessage crowd [0x53, 0x44, 0x50, 0x32, 0, 0, 1, 0, 0, 0, 7] =
        .error (.unknownTypeId 0) := by
  obtain ⟨placed, encoded⟩ := encode_crowdValue (i := 65534) (by decide)
  have framed := encodeMessage_of_encode placed encoded
  have small : ([7] : Bytes).length ≤ maxSerializedSize := by decide
  have decoded := decodeMessage_frame (structIndex_lt placed) small
  have bytes : Frame.encode (Schema.typeIdAt (65534 + 1)) [7] =
      [0x53, 0x44, 0x50, 0x32, 0, 0, 1, 0, 0, 0, 7] := by decide
  rw [bytes] at framed decoded
  rw [if_pos (by decide)] at decoded
  exact ⟨crowd_wellFormed, ⟨by decide, by decide⟩, encoded, framed, decoded⟩

end Value
end SchemaWire

import Mathlib
import SchemaWire.Proofs.Value.RoundTrip

/-!
Encoding undoes decoding: whatever bytes are accepted as a value are the ones that the value is
encoded as. So no value has two wire forms.
-/
namespace SchemaWire.Value

section Accepting

variable {schema : Schema} {struct : Nat → Decode Value}
  (each : ∀ index, (struct index).Accepts fun raw _ v => bytesAs schema v (.struct index) = .ok raw)
include each

theorem accepts_decodeType (type : FieldType) :
    (decodeType struct type).Accepts fun raw _ v => bytesAs schema v type = .ok raw := by
  induction type with
  | primitive p =>
      cases p with
      | scalar t =>
          refine (Decode.accepts_scalar t).map _ ?_
          rintro _ _ x ⟨rfl, -⟩
          exact bytesAs_scalar_ok.mpr ⟨rfl, rfl⟩
      | text =>
          refine Decode.accepts_text.map _ ?_
          rintro _ _ s ⟨rfl, -, -⟩
          exact bytesAs_text_ok.mpr ⟨rfl, rfl⟩
  | struct index => exact each index
  | array element ih =>
      refine (Decode.accepts_list ih).map _ ?_
      rintro _ _ items ⟨-, body, ks, rfl, -, row⟩
      refine bytesAs_array_ok.mpr ⟨element, body, rfl, ?_, rfl⟩
      induction row with
      | nil => rfl
      | cons head tail ihTail => exact bytesItems_cons_ok.mpr ⟨_, _, head, ihTail, rfl⟩

/-- What is read of some fields of a struct are entries in their order, whose bytes were read. -/
theorem accepts_decodeFields (d : StructDef) {fs : List FieldDef}
    (nodup : (fs.map (·.name)).Nodup) :
    (decodeFields struct fs).Accepts fun raw _ entries =>
      (entries.map (·.1)).Sublist (fs.map (·.name)) ∧
        fieldsBytes d (fun f => bytesNamed schema entries f.name f.type) fs = .ok raw := by
  induction fs with
  | nil => exact .pure ⟨List.Sublist.refl [], rfl⟩
  | cons f rest ih =>
      obtain ⟨fresh, distinct⟩ := List.nodup_cons.mp nodup
      have others := ih distinct
      have value := accepts_decodeType each f.type
      rw [decodeFields, decodeFieldsWith]
      cases optional : f.optional with
      | false =>
          refine value.bind (Q := fun v raw _ entries => ∃ later,
            entries = (f.name, v) :: later ∧ (later.map (·.1)).Sublist (rest.map (·.name)) ∧
              fieldsBytes d (fun f => bytesNamed schema later f.name f.type) rest = .ok raw)
            (fun v => others.map _ fun _ _ entries read => ⟨entries, rfl, read⟩) ?_
          rintro head _ v tail _ _ written ⟨entries, rfl, ordered, bytes⟩
          refine ⟨ordered.cons_cons f.name, ?_⟩
          rw [fieldsBytes_cons_present fresh written bytes, optional]
          rfl
      | true =>
          refine (Decode.accepts_option value).bind (Q := fun o raw _ entries => ∃ later,
            entries = o.toList.map (f.name, ·) ++ later ∧
              (later.map (·.1)).Sublist (rest.map (·.name)) ∧
              fieldsBytes d (fun f => bytesNamed schema later f.name f.type) rest = .ok raw) ?_ ?_
          · intro o
            cases o with
            | none => exact others.imp fun _ _ entries read => ⟨entries, rfl, read⟩
            | some v => exact others.map _ fun _ _ entries read => ⟨entries, rfl, read⟩
          · rintro head _ o tail _ _ flagged ⟨entries, rfl, ordered, bytes⟩
            rcases flagged with ⟨rfl, rfl, -⟩ | ⟨v, body, rfl, rfl, written⟩
            · have absent : f.name ∉ entries.map (·.1) :=
                fun member => fresh (ordered.subset member)
              exact ⟨ordered.cons f.name, fieldsBytes_cons_absent optional absent bytes⟩
            · refine ⟨ordered.cons_cons f.name, ?_⟩
              refine (fieldsBytes_cons_present fresh written bytes).trans ?_
              rw [optional]
              rfl

end Accepting

theorem accepts_decodeStruct {schema : Schema} (wf : schema.WellFormed) (depth index : Nat) :
    (decodeStruct schema depth index).Accepts fun raw _ v =>
      bytesAs schema v (.struct index) = .ok raw := by
  induction depth generalizing index with
  | zero =>
      intro c c' v run
      rw [decodeStruct, decodeStructWith] at run
      split at run <;> cases run
  | succ depth ih =>
      rw [decodeStruct, decodeStructWith]
      cases located : schema.defs[index]? with
      | none =>
          intro c c' v run
          cases run
      | some d =>
          have nodup := wf.field_names_nodup d (List.mem_of_getElem? located)
          refine (accepts_decodeFields ih d nodup).map _ ?_
          rintro raw _ entries ⟨ordered, bytes⟩
          exact bytesAs_object_of_ordered located ordered bytes

/-- What a decoder accepts as a value is exactly what that value is encoded as, so whatever else is
accepted as the same value consists of the same bytes. -/
theorem encode_decodeAt {schema : Schema} (wf : schema.WellFormed) {i : Nat} {c c' : Cursor}
    {v : Value} (h : decodeAt schema i c = .ok v c') :
    ∃ n ≤ c.remaining, c'.index = c.index + n ∧ c'.rest = c.rest.drop n ∧
      encode schema v = .ok (c.rest.take n) ∧ encodedSize schema v = .ok n ∧
      ∀ j d d', decodeAt schema j d = .ok v d' →
        j = i ∧ d.rest.take (d'.index - d.index) = c.rest.take n := by
  obtain ⟨raw, k, adv, written⟩ := accepts_decodeStruct wf _ i h
  have placed := structIndex_of_bytesAs wf written
  have consumed : c.rest.take raw.length = raw := by rw [adv.rest, List.take_left]
  refine ⟨raw.length, ?_, adv.index, ?_, ?_, ?_, ?_⟩
  · rw [Cursor.remaining, adv.rest_length]
    exact Nat.le_add_right ..
  · rw [adv.rest, List.drop_left]
  · rw [consumed]
    exact encode_of_bytesAs wf written
  · rw [encodedSize, placed]
    exact (sizeAs_eq schema v (.struct i)).trans (by rw [written]; rfl)
  · intro j d d' other
    obtain ⟨raw', k', adv', written'⟩ := accepts_decodeStruct wf _ j other
    have same := placed.symm.trans (structIndex_of_bytesAs wf written')
    cases same
    have bytes := written.symm.trans written'
    cases bytes
    refine ⟨rfl, ?_⟩
    rw [adv'.index, Nat.add_sub_cancel_left, consumed, adv'.rest, List.take_left]

/-- In the middle of an input, with bytes left behind the value. -/
theorem encode_decodeAt_inventory :
    decodeAt Catalog.schema 3 ⟨inventoryBytes ++ [9, 9], 5, 2⟩ =
        .ok sortedInventory ⟨[9, 9], 82, 11⟩ ∧
      encode Catalog.schema sortedInventory = .ok inventoryBytes ∧
      encodedSize Catalog.schema sortedInventory = .ok 77 := by
  have run : decodeAt Catalog.schema 3 ⟨inventoryBytes ++ [9, 9], 5, 2⟩ =
      .ok sortedInventory ⟨[9, 9], 82, 11⟩ := by
    cbv
  obtain ⟨n, -, moved, -, encoded, sized, -⟩ := encode_decodeAt Catalog.schema_wellFormed run
  have length : 77 = n := Nat.add_left_cancel moved
  subst length
  exact ⟨run, encoded, sized⟩

end SchemaWire.Value

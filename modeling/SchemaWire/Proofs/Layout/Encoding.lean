import SchemaWire.Proofs.Layout.Dynamic
import SchemaWire.Proofs.Layout.Wire
import SchemaWire.Proofs.Value.Bytes

/-!
Layouts and the walk over a schema write the same bytes: where a schema gives a struct a layout,
the bytes of the dynamic form of a value are those of the value.
-/
namespace SchemaWire.Value

open Schema (typeLayout fieldsLayout structLayout)

/-- Every value of the layout has a dynamic form, which has the same bytes as that type. -/
def Shows (schema : Schema) (l : Layout) (type : FieldType) : Prop :=
  ∀ x, ∃ v, l.value? x = some v ∧ bytesAs schema v type = .ok (l.bytes x)

variable {schema : Schema}

theorem bytesItems_filterMap {α : Type} {item : α → Option Value} {bytes : α → Bytes}
    {type : FieldType} {xs : List α}
    (each : ∀ x, ∃ v, item x = some v ∧ bytesAs schema v type = .ok (bytes x)) :
    bytesAs schema (.array (xs.filterMap item)) (.array type) =
      .ok (littleEndian 4 xs.length ++ xs.flatMap bytes) := by
  have items : (xs.filterMap item).length = xs.length ∧
      bytesItems schema (xs.filterMap item) type = .ok (xs.flatMap bytes) := by
    induction xs with
    | nil => exact ⟨rfl, rfl⟩
    | cons x rest ih =>
        obtain ⟨v, shown, written⟩ := each x
        obtain ⟨counted, others⟩ := ih
        rw [List.filterMap_cons_some shown, List.flatMap_cons]
        exact ⟨congrArg (· + 1) counted, bytesItems_cons_ok.mpr ⟨_, _, written, others, rfl⟩⟩
  rw [← items.1]
  exact bytesAs_array_ok.mpr ⟨type, _, rfl, items.2, rfl⟩

section Walk

variable {struct : Nat → Option Layout}
  (structs : ∀ index l, struct index = some l → Shows schema l (.struct index))
include structs

theorem shows_type {type : FieldType} {l : Layout} (h : typeLayout struct type = some l) :
    Shows schema l type := by
  fun_induction typeLayout struct type generalizing l with
  | case1 t =>
      cases h
      exact fun x => ⟨_, rfl, bytesAs_scalar_ok.mpr ⟨rfl, rfl⟩⟩
  | case2 =>
      cases h
      exact fun s => ⟨_, rfl, bytesAs_text_ok.mpr ⟨rfl, rfl⟩⟩
  | case3 index => exact structs index l h
  | case4 t =>
      cases h
      intro xs
      refine ⟨_, rfl, ?_⟩
      rw [← List.filterMap_eq_map]
      exact bytesItems_filterMap fun x => ⟨_, rfl, bytesAs_scalar_ok.mpr ⟨rfl, rfl⟩⟩
  | case5 element _ ih =>
      obtain ⟨item, found, rfl⟩ := Option.map_eq_some_iff.mp h
      exact fun xs => ⟨_, rfl, bytesItems_filterMap (ih found)⟩

theorem fieldsBytes_entries (d : StructDef) {fs : List FieldDef} {fields : Fields}
    (h : fieldsLayout struct fs = some fields) (nodup : (fs.map (·.name)).Nodup)
    (x : fields.Owned) :
    ((fields.entries x).map (·.1)).Sublist (fs.map (·.name)) ∧
      fieldsBytes d (fun f => bytesNamed schema (fields.entries x) f.name f.type) fs =
        .ok (fields.bytes x) := by
  induction fs generalizing fields with
  | nil =>
      cases h
      exact ⟨List.Sublist.refl [], rfl⟩
  | cons f rest ih =>
      rw [fieldsLayout] at h
      obtain ⟨layout, typed, h⟩ := Option.bind_eq_some_iff.mp h
      obtain ⟨later, found, h⟩ := Option.bind_eq_some_iff.mp h
      cases h
      obtain ⟨fresh, distinct⟩ := List.nodup_cons.mp nodup
      obtain ⟨y, ys⟩ := x
      obtain ⟨ordered, bytes⟩ := ih found distinct ys
      have shows := shows_type structs typed
      obtain ⟨name, type, optional⟩ := f
      cases optional with
      | false =>
          obtain ⟨v, shown, written⟩ := shows y
          have listed :
              Fields.entries (.cons name layout later) (y, ys) = (name, v) :: later.entries ys := by
            simp only [Fields.entries, shown]
          refine ⟨listed ▸ ordered.cons_cons name, ?_⟩
          exact listed ▸ fieldsBytes_cons_present fresh written bytes
      | true =>
          cases y with
          | none =>
              have absent : name ∉ (later.entries ys).map (·.1) :=
                fun member => fresh (ordered.subset member)
              exact ⟨ordered.cons name, fieldsBytes_cons_absent rfl absent bytes⟩
          | some z =>
              obtain ⟨v, shown, written⟩ := shows z
              have listed : Fields.entries (.cons name (.option layout) later) (some z, ys) =
                  (name, v) :: later.entries ys := by
                simp only [Fields.entries, Layout.value?, shown]
              refine ⟨listed ▸ ordered.cons_cons name, ?_⟩
              exact listed ▸ fieldsBytes_cons_present fresh written bytes

end Walk

/-- The bytes of an object are those of the value it is the dynamic form of. -/
theorem shows_struct (nodup : ∀ d ∈ schema.defs, (d.fields.map (·.name)).Nodup)
    {depth index : Nat} {l : Layout} (h : structLayout schema depth index = some l) :
    Shows schema l (.struct index) := by
  induction depth generalizing index l with
  | zero => cases h
  | succ depth ih =>
      rw [structLayout] at h
      obtain ⟨d, located, h⟩ := Option.bind_eq_some_iff.mp h
      obtain ⟨fields, laid, h⟩ := Option.bind_eq_some_iff.mp h
      cases h
      intro x
      obtain ⟨ordered, bytes⟩ := fieldsBytes_entries (fun _ _ => ih) d laid
        (nodup d (List.mem_of_getElem? located)) x
      exact ⟨_, rfl, bytesAs_object_of_ordered located ordered bytes⟩

end SchemaWire.Value

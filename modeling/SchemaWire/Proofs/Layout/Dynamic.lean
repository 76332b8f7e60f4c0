import SchemaWire.Layout.Owned
import SchemaWire.Proofs.Wire.Parallel
import SchemaWire.Value.Decode

/-!
Layouts and dynamic values. A schema gives every struct a layout, and decoding by the layout and
walking the schema run in parallel.
-/
namespace SchemaWire

open Decode (Parallel)

mutual

/-- The dynamic form of a value. An absent option has none. -/
def Layout.value? : (l : Layout) → l.Owned → Option Value
  | .scalar t, x => some (.scalar t x)
  | .text, (s : String) => some (.text s)
  | .packed t, (xs : List t.Carrier) => some (.array (xs.map (.scalar t)))
  | .list item, (xs : List item.Owned) => some (.array (xs.filterMap item.value?))
  | .option item, x =>
    match x with
    | some y => item.value? y
    | none => none
  | .record name fields, x => some (.object name (fields.entries x))

/-- The fields of an object; those without a dynamic form are left out. -/
def Fields.entries : (fs : Fields) → fs.Owned → List (String × Value)
  | .nil, _ => []
  | .cons name layout rest, (x, xs) =>
    match layout.value? x with
    | some v => (name, v) :: rest.entries xs
    | none => rest.entries xs

end

namespace Schema

/-- The layout of a field type, given those of structs. Arrays of scalars are packed. -/
def typeLayout (struct : Nat → Option Layout) : FieldType → Option Layout
  | .primitive (.scalar t) => some (.scalar t)
  | .primitive .text => some .text
  | .struct index => struct index
  | .array (.primitive (.scalar t)) => some (.packed t)
  | .array element => (typeLayout struct element).map .list

def fieldsLayout (struct : Nat → Option Layout) : List FieldDef → Option Fields
  | [] => some .nil
  | f :: rest => do
    let layout ← typeLayout struct f.type
    let fields ← fieldsLayout struct rest
    return .cons f.name (if f.optional then .option layout else layout) fields

/-- The layout of the struct at a position, with at most `depth` structs inside one another. -/
def structLayout (schema : Schema) : (depth : Nat) → (index : Nat) → Option Layout
  | 0, _ => none
  | depth + 1, index => do
    let d ← schema.defs[index]?
    let fields ← fieldsLayout (structLayout schema depth) d.fields
    return .record d.name fields

end Schema

namespace Value

open Schema (typeLayout fieldsLayout structLayout)

theorem filterMap_value? {item : Layout} {xs : List item.Owned} {vs : List Value}
    (each : List.Forall₂ (fun x v => item.value? x = some v) xs vs) :
    xs.filterMap item.value? = vs := by
  induction each with
  | nil => rfl
  | cons head tail ih => rw [List.filterMap_cons_some head, ih]

section Cons

variable {name : String} {layout : Layout} {later : Fields} {d : Decode Value}
  {rest : Decode (List (String × Value))}
  (head : Parallel layout.decode d fun x v => layout.value? x = some v)
  (tail : Parallel later.decode rest fun xs entries => later.entries xs = entries)
include head tail

theorem parallel_required :
    Parallel (Fields.decode (.cons name layout later)) (do
        let v ← d
        return (name, v) :: (← rest))
      fun x entries => Fields.entries (.cons name layout later) x = entries := by
  refine head.bind ?_
  intro x v shown
  refine tail.map _ _ ?_
  intro xs entries listed
  simp only [Fields.entries, shown, listed]

/-- An absent field leaves no entry. -/
theorem parallel_optional :
    Parallel (Fields.decode (.cons name (.option layout) later)) (do
        match ← Decode.option d with
        | some v => return (name, v) :: (← rest)
        | none => rest)
      fun x entries => Fields.entries (.cons name (.option layout) later) x = entries := by
  refine head.option.bind ?_
  intro x v related
  cases related with
  | none =>
      have absent := tail.map (S := fun (x : Option layout.Owned × later.Owned) entries =>
        Fields.entries (.cons name (.option layout) later) x = entries) (fun xs => (none, xs)) id ?_
      · simpa only [id_eq, bind_pure] using absent
      · intro xs entries listed
        simp only [Fields.entries, Layout.value?, listed, id_eq]
  | some shown =>
      refine tail.map _ _ ?_
      intro xs entries listed
      simp only [Fields.entries, Layout.value?, shown, listed]

end Cons

section Walk

variable {struct : Nat → Option Layout} {decodeStruct : Nat → Decode Value}
  (structs : ∀ index l, struct index = some l →
    Parallel l.decode (decodeStruct index) fun x v => l.value? x = some v)
include structs

theorem parallel_decodeType {type : FieldType} {l : Layout} (h : typeLayout struct type = some l) :
    Parallel l.decode (decodeType decodeStruct type) fun x v => l.value? x = some v := by
  fun_induction typeLayout struct type generalizing l with
  | case1 t =>
      cases h
      refine (Parallel.refl (Decode.scalar t)).map_right _ ?_
      rintro x _ rfl
      rfl
  | case2 =>
      cases h
      refine (Parallel.refl Decode.text).map_right _ ?_
      rintro s _ rfl
      rfl
  | case3 index => exact structs index l h
  | case4 t =>
      cases h
      -- The layout reads these elements in bulk, the walk reads them one by one.
      have element : Parallel (Decode.scalar t) (decodeType decodeStruct (.primitive (.scalar t)))
          fun x v => .scalar t x = v := by
        refine (Parallel.refl (Decode.scalar t)).map_right _ ?_
        rintro x _ rfl
        rfl
      refine ((Decode.parallel_packed t).trans element.list).map_right _ ?_
      intro xs vs each
      have same := List.forall₂_map_left_iff.mpr each
      rw [List.forall₂_eq_eq_eq] at same
      rw [← same]
      rfl
  | case5 element other ih =>
      obtain ⟨item, found, rfl⟩ := Option.map_eq_some_iff.mp h
      refine (ih found).list.map_right _ ?_
      intro xs vs each
      rw [Layout.value?, filterMap_value? each]

theorem parallel_decodeFields {fs : List FieldDef} {fields : Fields}
    (h : fieldsLayout struct fs = some fields) :
    Parallel fields.decode (decodeFields decodeStruct fs) fun x entries =>
      fields.entries x = entries := by
  induction fs generalizing fields with
  | nil =>
      cases h
      exact Parallel.pure rfl
  | cons f rest ih =>
      rw [fieldsLayout] at h
      obtain ⟨layout, typed, h⟩ := Option.bind_eq_some_iff.mp h
      obtain ⟨later, found, h⟩ := Option.bind_eq_some_iff.mp h
      cases h
      have head := parallel_decodeType structs typed
      have tail := ih found
      obtain ⟨name, type, optional⟩ := f
      cases optional with
      | false => exact parallel_required head tail
      | true => exact parallel_optional head tail

end Walk

/-- Decoding by a struct's layout and walking the schema run in parallel. -/
theorem parallel_decodeStruct {schema : Schema} {depth depth' index : Nat} {l : Layout}
    (h : structLayout schema depth index = some l) (deep : depth ≤ depth') :
    Parallel l.decode (decodeStruct schema depth' index) fun x v => l.value? x = some v := by
  induction depth generalizing depth' index l with
  | zero => cases h
  | succ depth ih =>
      obtain ⟨depth', rfl⟩ := Nat.exists_eq_add_of_lt deep
      rw [structLayout] at h
      obtain ⟨d, found, h⟩ := Option.bind_eq_some_iff.mp h
      obtain ⟨fields, laid, h⟩ := Option.bind_eq_some_iff.mp h
      cases h
      rw [decodeStruct_succ found]
      refine (parallel_decodeFields (fun _ _ laid => ih laid (by omega)) laid).map_right _ ?_
      rintro x _ rfl
      rfl

end Value
end SchemaWire

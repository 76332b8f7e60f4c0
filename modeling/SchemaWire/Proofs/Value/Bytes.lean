import SchemaWire.Proofs.Wire.Writing
import SchemaWire.Value.Encode

/-!
The bytes of a dynamic value. `bytesAs` gives them as a list, `sizeAs` computes its length and
`encodeAs` writes it, so that `encode` is `bytesAs` at the struct an object names.
-/
namespace SchemaWire

namespace Value

/-- A property holds of all values if it passes from the items of arrays and the entries of objects
to these. -/
@[elab_as_elim, induction_eliminator]
theorem ind {motive : Value → Prop} (scalar : ∀ t x, motive (.scalar t x))
    (text : ∀ s, motive (.text s))
    (array : ∀ items, (∀ v ∈ items, motive v) → motive (.array items))
    (object : ∀ name fields, (∀ key v, (key, v) ∈ fields → motive v) → motive (.object name fields))
    (v : Value) : motive v := by
  refine @Value.rec motive (fun items => ∀ v ∈ items, motive v)
    (fun fields => ∀ key v, (key, v) ∈ fields → motive v) (fun entry => motive entry.2)
    scalar text array object ?_ ?_ ?_ ?_ ?_ v
  · intro v member
    cases member
  · intro first rest ih ihRest v member
    rcases List.mem_cons.mp member with rfl | later
    · exact ih
    · exact ihRest v later
  · intro key v member
    cases member
  · intro first rest ih ihRest key v member
    rcases List.mem_cons.mp member with rfl | later
    · exact ih
    · exact ihRest key v later
  · intro key v ih
    exact ih

/-- The bytes of one field, given the bytes of its value if it has one. -/
def fieldBytes (d : StructDef) (f : FieldDef) :
    Option (Except WireError Bytes) → Except WireError Bytes
  | some raw => if f.optional then do return ScalarType.bool.toBytes true ++ (← raw) else raw
  | none =>
    if f.optional then .ok (ScalarType.bool.toBytes false)
    else .error (.schemaMismatch (.missingField d.name f.name))

/-- The bytes of some fields in order, given those of their values. -/
def fieldsBytes (d : StructDef) (value : FieldDef → Option (Except WireError Bytes)) :
    List FieldDef → Except WireError Bytes
  | [] => .ok []
  | f :: rest => do
    let head ← fieldBytes d f (value f)
    return head ++ (← fieldsBytes d value rest)

mutual

def bytesAs (schema : Schema) : Value → FieldType → Except WireError Bytes
  | .text s, .primitive .text => .ok (textBytes s)
  | .scalar t x, .primitive (.scalar u) =>
    if t == u then .ok (t.toBytes x) else .error (mismatch (.primitive (.scalar u)) (.scalar t x))
  | .array items, .array element => do
    return littleEndian 4 items.length ++ (← bytesItems schema items element)
  | .object name fields, .struct index => do
    let d ← structFor schema index name fields
    fieldsBytes d (fun f => bytesNamed schema fields f.name f.type) d.fields
  | v, type => .error (mismatch type v)

def bytesItems (schema : Schema) : List Value → FieldType → Except WireError Bytes
  | [], _ => .ok []
  | item :: rest, type => do
    let first ← bytesAs schema item type
    return first ++ (← bytesItems schema rest type)

/-- The bytes of the first entry of a name, if there is one. -/
def bytesNamed (schema : Schema) :
    List (String × Value) → String → FieldType → Option (Except WireError Bytes)
  | [], _, _ => none
  | (key, v) :: rest, name, type =>
    if key == name then some (bytesAs schema v type) else bytesNamed schema rest name type

end

-- Many proofs below open these; their equations are generated here, once.
attribute [local simp] sizeAs encodeAs bytesAs

theorem sizeNamed_eq (schema : Schema) (fields : List (String × Value)) (name : String)
    (type : FieldType) :
    sizeNamed schema fields name type = (lookup name fields).map (sizeAs schema · type) := by
  induction fields with
  | nil => rfl
  | cons entry rest ih =>
      simp only [sizeNamed, lookup, ih]
      split <;> rfl

theorem encodeNamed_eq (schema : Schema) (fields : List (String × Value)) (name : String)
    (type : FieldType) :
    encodeNamed schema fields name type = (lookup name fields).map (encodeAs schema · type) := by
  induction fields with
  | nil => rfl
  | cons entry rest ih =>
      simp only [encodeNamed, lookup, ih]
      split <;> rfl

theorem bytesNamed_eq (schema : Schema) (fields : List (String × Value)) (name : String)
    (type : FieldType) :
    bytesNamed schema fields name type = (lookup name fields).map (bytesAs schema · type) := by
  induction fields with
  | nil => rfl
  | cons entry rest ih =>
      simp only [bytesNamed, lookup, ih]
      split <;> rfl

theorem mem_of_lookup {name : String} {fields : List (String × Value)} {v : Value}
    (h : lookup name fields = some v) : (name, v) ∈ fields := by
  induction fields with
  | nil => cases h
  | cons entry rest ih =>
      simp only [lookup, beq_iff_eq] at h
      split at h
      · rename_i same
        cases h
        rw [← same]
        exact List.mem_cons_self ..
      · exact List.mem_cons_of_mem _ (ih h)

theorem lookup_cons_self (name : String) (v : Value) (rest : List (String × Value)) :
    lookup name ((name, v) :: rest) = some v := by
  rw [lookup, BEq.rfl, if_pos rfl]

theorem lookup_cons_of_ne {key name : String} (differ : key ≠ name) (v : Value)
    (rest : List (String × Value)) : lookup name ((key, v) :: rest) = lookup name rest := by
  rw [lookup, if_neg (by rwa [beq_iff_eq])]

theorem lookup_eq_none {name : String} {fields : List (String × Value)}
    (absent : name ∉ fields.map (·.1)) : lookup name fields = none := by
  cases found : lookup name fields with
  | none => rfl
  | some v => exact absurd (List.mem_map_of_mem (mem_of_lookup found)) absent

theorem lookup_filter (keep : String → Bool) {name : String} (kept : keep name = true)
    (fields : List (String × Value)) :
    lookup name (fields.filter fun entry => keep entry.1) = lookup name fields := by
  induction fields with
  | nil => rfl
  | cons entry rest ih =>
      obtain ⟨key, v⟩ := entry
      by_cases same : key = name
      · subst same
        rw [List.filter_cons, if_pos kept, lookup_cons_self, lookup_cons_self]
      · rw [lookup_cons_of_ne same, ← ih, List.filter_cons]
        split
        · exact lookup_cons_of_ne same v _
        · rfl

theorem fieldSize_map (d : StructDef) (f : FieldDef) (value : Option (Except WireError Bytes)) :
    fieldSize d f (value.map fun raw => raw.map List.length) =
      (fieldBytes d f value).map List.length := by
  obtain ⟨name, type, optional⟩ := f
  cases value with
  | none => cases optional <;> rfl
  | some raw =>
      cases optional with
      | false => rfl
      | true =>
          cases raw with
          | error e => rfl
          | ok raw => exact congrArg Except.ok (Nat.add_comm 1 raw.length)

theorem foldlM_fieldSize (d : StructDef) (value : FieldDef → Option (Except WireError Bytes))
    (fields : List FieldDef) (total : Nat) :
    fields.foldlM (fun total f => do
      return total + (← fieldSize d f ((value f).map fun raw => raw.map List.length))) total =
      (fieldsBytes d value fields).map fun raw => total + raw.length := by
  induction fields generalizing total with
  | nil => rfl
  | cons f rest ih =>
      rw [List.foldlM_cons, fieldSize_map, fieldsBytes]
      cases fieldBytes d f (value f) with
      | error e => rfl
      | ok head =>
          refine (ih (total + head.length)).trans ?_
          cases fieldsBytes d value rest with
          | error e => rfl
          | ok tail =>
              refine congrArg Except.ok ?_
              change total + head.length + tail.length = total + (head ++ tail).length
              rw [List.length_append, Nat.add_assoc]

theorem sizeItems_map {schema : Schema} {items : List Value} {element : FieldType}
    (each : ∀ v ∈ items, sizeAs schema v element = (bytesAs schema v element).map List.length) :
    sizeItems schema items element = (bytesItems schema items element).map List.length := by
  induction items with
  | nil => rfl
  | cons item rest ih =>
      have tail := ih fun v member => each v (List.mem_cons_of_mem _ member)
      rw [sizeItems, bytesItems, each item (List.mem_cons_self ..), tail]
      cases bytesAs schema item element with
      | error e => rfl
      | ok first =>
          cases bytesItems schema rest element with
          | error e => rfl
          | ok raws => exact congrArg Except.ok List.length_append.symm

/-- The built-in type that a value is of. -/
def primitive? : Value → Option PrimitiveType
  | .scalar t _ => some (.scalar t)
  | .text _ => some .text
  | .array _ | .object .. => none

/-- Spellings of types and words for kinds agree only where the value is of the type. -/
theorem name_eq_kind_iff {p : PrimitiveType} {v : Value} :
    p.name = v.kind ↔ v.primitive? = some p := by
  cases v with
  | scalar t x =>
      constructor
      · intro same
        exact congrArg some (PrimitiveType.name_inj (q := .scalar t) same).symm
      · rintro ⟨⟩
        rfl
  | text s =>
      constructor
      · intro same
        exact congrArg some (PrimitiveType.name_inj (q := .text) same).symm
      · rintro ⟨⟩
        rfl
  | array items =>
      have other : p.name ≠ "array" := PrimitiveType.name_ne_of_ofName? rfl p
      exact ⟨fun same => absurd same other, fun none => nomatch none⟩
  | object name fields =>
      have other : p.name ≠ "object" := PrimitiveType.name_ne_of_ofName? rfl p
      exact ⟨fun same => absurd same other, fun none => nomatch none⟩

theorem checkPrimitive_eq (p : PrimitiveType) (v : Value) :
    checkPrimitive p v =
      if v.primitive? = some p then .ok () else .error (mismatch (.primitive p) v) := by
  simp only [checkPrimitive, beq_iff_eq, name_eq_kind_iff]

theorem sizeAs_primitive (schema : Schema) (v : Value) (p : PrimitiveType) :
    sizeAs schema v (.primitive p) = (bytesAs schema v (.primitive p)).map List.length := by
  by_cases typed : v.primitive? = some p
  · cases v with
    | scalar t x =>
        cases typed
        have accepted : checkPrimitive (.scalar t) (.scalar t x) = .ok () :=
          (checkPrimitive_eq ..).trans (if_pos rfl)
        rw [sizeAs, accepted, bytesAs, BEq.rfl, if_pos rfl]
        · exact congrArg Except.ok (t.toBytes_length x).symm
        · intro s same
          cases same
    | text s =>
        cases typed
        simp only [sizeAs, bytesAs, Except.map, textBytes_length]
    | _ => cases typed
  · have size : sizeAs schema v (.primitive p) = .error (mismatch (.primitive p) v) := by
      rw [sizeAs, checkPrimitive_eq, if_neg typed]
      · rfl
      · rintro s rfl rfl
        exact typed rfl
    have bytes : bytesAs schema v (.primitive p) = .error (mismatch (.primitive p) v) := by
      cases v with
      | scalar t x =>
          cases p with
          | scalar u =>
              have differ : t ≠ u := fun same => typed (same ▸ rfl)
              rw [bytesAs, if_neg (mt beq_iff_eq.mp differ)]
          | text => rfl
      | text s =>
          cases p with
          | scalar u => rfl
          | text => exact absurd rfl typed
      | _ => rfl
    rw [size, bytes, Except.map]

/-- The size of a value is the number of its bytes, and fails as they do. -/
theorem sizeAs_eq (schema : Schema) (v : Value) (type : FieldType) :
    sizeAs schema v type = (bytesAs schema v type).map List.length := by
  induction v generalizing type with
  | scalar t x =>
      cases type with
      | primitive p => exact sizeAs_primitive schema (.scalar t x) p
      | _ => rfl
  | text s =>
      cases type with
      | primitive p => exact sizeAs_primitive schema (.text s) p
      | _ => rfl
  | array items ih =>
      rcases type with p | _ | element
      · exact sizeAs_primitive schema (.array items) p
      · rfl
      · rw [sizeAs, bytesAs, sizeItems_map fun v member => ih v member element]
        cases bytesItems schema items element with
        | error e => rfl
        | ok raws =>
            refine congrArg Except.ok ?_
            rw [List.length_append, littleEndian_length]
  | object name fields ih =>
      rcases type with p | index | _
      · exact sizeAs_primitive schema (.object name fields) p
      · rw [sizeAs, bytesAs]
        cases structFor schema index name fields with
        | error e => rfl
        | ok d =>
            have named : ∀ f : FieldDef, sizeNamed schema fields f.name f.type =
                (bytesNamed schema fields f.name f.type).map fun raw => raw.map List.length := by
              intro f
              rw [sizeNamed_eq, bytesNamed_eq, Option.map_map]
              refine Option.map_congr ?_
              intro v found
              exact ih f.name v (mem_of_lookup found) f.type
            simp only [named]
            refine (foldlM_fieldSize d _ d.fields 0).trans ?_
            simp only [Nat.zero_add]
            rfl
      · rfl

theorem fieldsBytes_cons_ok {d : StructDef} {value : FieldDef → Option (Except WireError Bytes)}
    {f : FieldDef} {rest : List FieldDef} {raw : Bytes} :
    fieldsBytes d value (f :: rest) = .ok raw ↔ ∃ head tail,
      fieldBytes d f (value f) = .ok head ∧ fieldsBytes d value rest = .ok tail ∧
        head ++ tail = raw := by
  simp only [fieldsBytes, except_bind_eq_ok, pure, Except.pure, Except.ok.injEq]
  constructor
  · rintro ⟨head, first, tail, second, joined⟩
    exact ⟨head, tail, first, second, joined⟩
  · rintro ⟨head, tail, first, second, joined⟩
    exact ⟨head, first, tail, second, joined⟩

theorem bytesItems_cons_ok {schema : Schema} {item : Value} {rest : List Value} {type : FieldType}
    {raw : Bytes} :
    bytesItems schema (item :: rest) type = .ok raw ↔ ∃ head tail,
      bytesAs schema item type = .ok head ∧ bytesItems schema rest type = .ok tail ∧
        head ++ tail = raw := by
  simp only [bytesItems, except_bind_eq_ok, pure, Except.pure, Except.ok.injEq]
  constructor
  · rintro ⟨head, first, tail, second, joined⟩
    exact ⟨head, tail, first, second, joined⟩
  · rintro ⟨head, tail, first, second, joined⟩
    exact ⟨head, first, tail, second, joined⟩

theorem expectDef_eq_ok {schema : Schema} {index : Nat} {name : String} {d : StructDef} :
    expectDef schema index name = .ok d ↔ schema.defs[index]? = some d ∧ d.name = name := by
  unfold expectDef
  cases schema.defs[index]? with
  | none => simp
  | some e =>
      by_cases same : e.name = name
      · simp only [same, BEq.rfl, if_true, Except.ok.injEq, Option.some.injEq]
        constructor
        · rintro rfl; exact ⟨rfl, same⟩
        · rintro ⟨rfl, -⟩; rfl
      · simp only [beq_iff_eq, if_neg same, reduceCtorEq, Option.some.injEq, false_iff, not_and]
        rintro rfl
        exact same

theorem checkNoExtra_eq_ok {d : StructDef} {fields : List (String × Value)} :
    checkNoExtra d fields = .ok () ↔ ∀ entry ∈ fields, (d.field? entry.1).isSome := by
  unfold checkNoExtra
  cases found : fields.find? fun entry => (d.field? entry.1).isNone with
  | none =>
      simp only [true_iff]
      intro entry member
      have known := List.find?_eq_none.mp found entry member
      rw [Option.isNone_iff_eq_none] at known
      exact Option.isSome_iff_ne_none.mpr known
  | some entry =>
      simp only [reduceCtorEq, false_iff]
      intro known
      have unknown := List.find?_some found
      have member := known entry (List.mem_of_find?_eq_some found)
      rw [Option.isNone_iff_eq_none] at unknown
      rw [unknown] at member
      cases member

theorem structFor_eq_ok {schema : Schema} {index : Nat} {name : String}
    {fields : List (String × Value)} {d : StructDef} :
    structFor schema index name fields = .ok d ↔
      (schema.defs[index]? = some d ∧ d.name = name) ∧
        ∀ entry ∈ fields, (d.field? entry.1).isSome := by
  unfold structFor
  simp only [except_bind_eq_ok, expectDef_eq_ok, pure, Except.pure, Except.ok.injEq]
  constructor
  · rintro ⟨e, named, _, known, rfl⟩
    exact ⟨named, checkNoExtra_eq_ok.mp known⟩
  · rintro ⟨named, known⟩
    exact ⟨d, named, (), checkNoExtra_eq_ok.mpr known, rfl⟩

section Shapes

variable {schema : Schema} {type : FieldType} {raw : Bytes}

theorem bytesAs_scalar_ok {t : ScalarType} {x : t.Carrier} :
    bytesAs schema (.scalar t x) type = .ok raw ↔
      type = .primitive (.scalar t) ∧ t.toBytes x = raw := by
  rcases type with (u | _) | _ | _
  · by_cases same : t = u
    · subst same
      simp [bytesAs]
    · simp [bytesAs, same, Ne.symm same]
  all_goals simp [bytesAs]

theorem bytesAs_text_ok {s : String} :
    bytesAs schema (.text s) type = .ok raw ↔ type = .primitive .text ∧ textBytes s = raw := by
  rcases type with (_ | _) | _ | _ <;> simp [bytesAs]

theorem bytesAs_array_ok {items : List Value} :
    bytesAs schema (.array items) type = .ok raw ↔ ∃ element body,
      type = .array element ∧ bytesItems schema items element = .ok body ∧
        littleEndian 4 items.length ++ body = raw := by
  rcases type with _ | _ | element
  · simp [bytesAs]
  · simp [bytesAs]
  · simp [bytesAs, except_bind_eq_ok, pure, Except.pure]

theorem bytesAs_object_ok {name : String} {fields : List (String × Value)} :
    bytesAs schema (.object name fields) type = .ok raw ↔ ∃ index d,
      type = .struct index ∧ structFor schema index name fields = .ok d ∧
        fieldsBytes d (fun f => bytesNamed schema fields f.name f.type) d.fields = .ok raw := by
  rcases type with _ | index | _
  · simp [bytesAs]
  · simp [bytesAs, except_bind_eq_ok]
  · simp [bytesAs]

end Shapes

theorem fieldsBytes_congr {d : StructDef}
    {value value' : FieldDef → Option (Except WireError Bytes)} {fs : List FieldDef}
    (same : ∀ f ∈ fs, value f = value' f) :
    fieldsBytes d value fs = fieldsBytes d value' fs := by
  induction fs with
  | nil => rfl
  | cons f rest ih =>
      rw [fieldsBytes, fieldsBytes, same f (List.mem_cons_self ..),
        ih fun g member => same g (List.mem_cons_of_mem f member)]

/-- A new first entry changes no field of another name. -/
theorem fieldsBytes_cons_entry {schema : Schema} {d : StructDef} {fs : List FieldDef}
    {name : String} (fresh : name ∉ fs.map (·.name)) (v : Value) (entries : List (String × Value)) :
    fieldsBytes d (fun f => bytesNamed schema ((name, v) :: entries) f.name f.type) fs =
      fieldsBytes d (fun f => bytesNamed schema entries f.name f.type) fs := by
  refine fieldsBytes_congr ?_
  intro f member
  have differ : name ≠ f.name := fun same => fresh (same ▸ List.mem_map_of_mem member)
  rw [bytesNamed_eq, bytesNamed_eq, lookup_cons_of_ne differ]

section Entries

variable {schema : Schema} {d : StructDef} {f : FieldDef} {rest : List FieldDef}
  {entries : List (String × Value)} {raw tail : Bytes}

/-- The bytes of fields whose first has an entry in front of those of the others. -/
theorem fieldsBytes_cons_present {v : Value} (fresh : f.name ∉ rest.map (·.name))
    (written : bytesAs schema v f.type = .ok raw)
    (others : fieldsBytes d (fun g => bytesNamed schema entries g.name g.type) rest = .ok tail) :
    fieldsBytes d (fun g => bytesNamed schema ((f.name, v) :: entries) g.name g.type)
        (f :: rest) =
      .ok ((if f.optional then ScalarType.bool.toBytes true ++ raw else raw) ++ tail) := by
  refine fieldsBytes_cons_ok.mpr ⟨_, tail, ?_, ?_, rfl⟩
  · rw [bytesNamed_eq, lookup_cons_self, Option.map_some, written, fieldBytes]
    cases f.optional <;> rfl
  · rw [fieldsBytes_cons_entry fresh, others]

/-- The bytes of fields whose first is optional and has no entry. -/
theorem fieldsBytes_cons_absent (optional : f.optional = true)
    (absent : f.name ∉ entries.map (·.1))
    (others : fieldsBytes d (fun g => bytesNamed schema entries g.name g.type) rest = .ok tail) :
    fieldsBytes d (fun g => bytesNamed schema entries g.name g.type) (f :: rest) =
      .ok (ScalarType.bool.toBytes false ++ tail) := by
  refine fieldsBytes_cons_ok.mpr ⟨_, tail, ?_, others, rfl⟩
  rw [bytesNamed_eq, lookup_eq_none absent, Option.map_none, fieldBytes, optional]
  rfl

/-- An object that lists fields of its struct in order is written by that struct. -/
theorem bytesAs_object_of_ordered {index : Nat} (located : schema.defs[index]? = some d)
    (ordered : (entries.map (·.1)).Sublist (d.fields.map (·.name)))
    (bytes : fieldsBytes d (fun f => bytesNamed schema entries f.name f.type) d.fields = .ok raw) :
    bytesAs schema (.object d.name entries) (.struct index) = .ok raw := by
  refine bytesAs_object_ok.mpr ⟨index, d, rfl, structFor_eq_ok.mpr ⟨⟨located, rfl⟩, ?_⟩, bytes⟩
  intro entry member
  obtain ⟨f, declared, named⟩ := List.mem_map.mp (ordered.subset (List.mem_map_of_mem member))
  exact List.find?_isSome.mpr ⟨f, declared, beq_iff_eq.mpr named⟩

end Entries

theorem encodeField_performs {d : StructDef} {f : FieldDef} {found : Option Value}
    {bytes : Value → Except WireError Bytes} {encode : Value → Encode Unit}
    (each : ∀ v, found = some v → (encode v).Performs (bytes v)) :
    (encodeField d f (found.map encode)).Performs (fieldBytes d f (found.map bytes)) := by
  obtain ⟨name, type, optional⟩ := f
  cases found with
  | none =>
      cases optional with
      | false => exact Encode.refuses_reject _
      | true => exact Encode.writes_scalar .bool false
  | some v =>
      cases optional with
      | false => exact each v rfl
      | true =>
          have flag : (Encode.scalar .bool true).Performs (.ok (ScalarType.bool.toBytes true)) :=
            Encode.writes_scalar .bool true
          exact flag.bind (each v rfl)

theorem forM_encodeField_performs {schema : Schema} {d : StructDef}
    {fields : List (String × Value)} (each : ∀ key v, (key, v) ∈ fields → ∀ type,
      (encodeAs schema v type).Performs (bytesAs schema v type)) (fs : List FieldDef) :
    Encode.Performs (fs.forM fun f => encodeField d f (encodeNamed schema fields f.name f.type))
      (fieldsBytes d (fun f => bytesNamed schema fields f.name f.type) fs) := by
  induction fs with
  | nil => exact Encode.writes_nothing
  | cons f rest ih =>
      refine Encode.Performs.bind ?_ ih
      simp only [bytesNamed_eq, encodeNamed_eq]
      refine encodeField_performs ?_
      intro v found
      exact each f.name v (mem_of_lookup found) f.type

theorem encodeItems_performs {schema : Schema} {items : List Value} {element : FieldType}
    (each : ∀ v ∈ items, (encodeAs schema v element).Performs (bytesAs schema v element)) :
    (encodeItems schema items element).Performs (bytesItems schema items element) := by
  induction items with
  | nil => exact Encode.writes_nothing
  | cons item rest ih =>
      obtain ⟨first, others⟩ := List.forall_mem_cons.mp each
      exact first.bind (ih others)

/-- What is written of a value that fits its type are its bytes; any other is refused for the reason
for which it has none. -/
theorem encodeAs_performs (schema : Schema) (v : Value) (type : FieldType) :
    (encodeAs schema v type).Performs (bytesAs schema v type) := by
  induction v generalizing type with
  | scalar t x =>
      rcases type with (u | _) | _ | _
      · rw [encodeAs, bytesAs]
        by_cases same : t = u
        · rw [if_pos (beq_iff_eq.mpr same), if_pos (beq_iff_eq.mpr same)]
          exact Encode.writes_scalar t x
        · rw [if_neg (mt beq_iff_eq.mp same), if_neg (mt beq_iff_eq.mp same)]
          exact Encode.refuses_reject _
      all_goals exact Encode.refuses_reject _
  | text s =>
      rcases type with (_ | _) | _ | _
      · exact Encode.refuses_reject _
      · exact Encode.writes_text s
      all_goals exact Encode.refuses_reject _
  | array items ih =>
      rcases type with _ | _ | element
      · exact Encode.refuses_reject _
      · exact Encode.refuses_reject _
      · have count : (Encode.length items.length).Performs (.ok (littleEndian 4 items.length)) :=
          Encode.writes_length items.length
        exact count.bind (encodeItems_performs fun v member => ih v member element)
  | object name fields ih =>
      rcases type with _ | index | _
      · exact Encode.refuses_reject _
      · rw [encodeAs, bytesAs]
        cases structFor schema index name fields with
        | error e => exact Encode.refuses_reject e
        | ok d => exact forM_encodeField_performs ih d.fields
      · exact Encode.refuses_reject _

theorem encodeAs_writes {schema : Schema} {v : Value} {type : FieldType} {raw : Bytes}
    (h : bytesAs schema v type = .ok raw) : (encodeAs schema v type).Writes raw := by
  have performs := encodeAs_performs schema v type
  rw [h] at performs
  exact performs

/-- Encoding gives the bytes of an object as the struct it names, or fails as they do. -/
theorem encode_eq_mapError (schema : Schema) (v : Value) :
    encode schema v = Except.mapError .rejected (do
      let index ← structIndex schema v
      bytesAs schema v (.struct index)) := by
  unfold encode
  cases structIndex schema v with
  | error e => rfl
  | ok index =>
      have size := sizeAs_eq schema v (.struct index)
      cases written : bytesAs schema v (.struct index) with
      | error e =>
          rw [written] at size
          simp [size, written, Except.mapError, Except.map, bind, Except.bind]
      | ok bytes =>
          rw [written] at size
          obtain ⟨b, done, -, full⟩ := (encodeAs_writes written).contents
            (List.length_replicate (n := bytes.length) (a := (0 : UInt8)))
          change encodeAs schema v (.struct index) (Buffer.blank bytes.length 0) = _ at done
          simp [size, written, Except.mapError, Except.map, bind, Except.bind, done, full, pure,
            Except.pure]

/-- Encoding succeeds exactly when an object has bytes as the struct it names, and gives them. -/
theorem encode_eq_ok {schema : Schema} {v : Value} {raw : Bytes} :
    encode schema v = .ok raw ↔
      ∃ index, structIndex schema v = .ok index ∧ bytesAs schema v (.struct index) = .ok raw := by
  rw [encode_eq_mapError, ← except_bind_eq_ok]
  cases (do
    let index ← structIndex schema v
    bytesAs schema v (.struct index)) with
  | error e => simp [Except.mapError]
  | ok bytes => simp [Except.mapError]

end Value
end SchemaWire

import SchemaWire.Proofs.Schema.WellFormed
import SchemaWire.Value.Decode

/-!
Walking a schema with arrays read in any given way. The bound on the depth of structs makes no
difference where references between structs end, so the walk is what its equations say: a struct is
its fields in order, an array its items, and nothing else. Decoding is the walk whose arrays are
read by `Decode.list`.
-/
namespace SchemaWire.Value

section Congruence

variable {array : Decode Value → Decode (List Value)} {struct struct' : Nat → Decode Value}

theorem decodeTypeWith_congr {type : FieldType}
    (same : ∀ j, type.struct? = some j → struct j = struct' j) :
    decodeTypeWith array struct type = decodeTypeWith array struct' type := by
  induction type with
  | primitive p => cases p <;> rfl
  | struct index => exact same index rfl
  | array element ih => rw [decodeTypeWith, decodeTypeWith, ih same]

theorem decodeFieldsWith_congr {fs : List FieldDef}
    (same : ∀ f ∈ fs, ∀ j, f.type.struct? = some j → struct j = struct' j) :
    decodeFieldsWith array struct fs = decodeFieldsWith array struct' fs := by
  induction fs with
  | nil => rfl
  | cons f rest ih =>
      rw [decodeFieldsWith, decodeFieldsWith, decodeTypeWith_congr (same f (List.mem_cons_self ..)),
        ih fun g member => same g (List.mem_cons_of_mem f member)]

end Congruence

section Depth

variable (array : Decode Value → Decode (List Value)) {schema : Schema}

theorem decodeStructWith_of_le {index : Nat} (h : schema.defs.length ≤ index) (depth : Nat) :
    decodeStructWith array schema depth index = throw (.schemaMismatch (.noStruct index)) := by
  cases depth with
  | zero => rw [decodeStructWith, if_neg (Nat.not_lt_of_le h)]
  | succ depth => rw [decodeStructWith, List.getElem?_eq_none h]

variable (grounded : schema.Grounded)
include grounded

/-- Beyond the rank of a struct the bound on its depth makes no difference. -/
theorem decodeStructWith_congr {depth depth' index : Nat} (deep : schema.rank index < depth)
    (deep' : schema.rank index < depth') :
    decodeStructWith array schema depth index = decodeStructWith array schema depth' index := by
  induction depth generalizing depth' index with
  | zero => exact absurd deep (Nat.not_lt_zero _)
  | succ depth ih =>
      cases depth' with
      | zero => exact absurd deep' (Nat.not_lt_zero _)
      | succ depth' =>
          rw [decodeStructWith, decodeStructWith]
          cases located : schema.defs[index]? with
          | none => rfl
          | some d =>
              have fields : decodeFieldsWith array (decodeStructWith array schema depth) d.fields =
                  decodeFieldsWith array (decodeStructWith array schema depth') d.fields := by
                apply decodeFieldsWith_congr
                intro f member j leads
                have lower := grounded.rank_lt_of_refers ⟨d, located, f, member, leads⟩
                exact ih (by omega) (by omega)
              simp only [fields]

theorem decodeStructWith_eq {depth depth' : Nat} (deep : schema.defs.length ≤ depth)
    (deep' : schema.defs.length ≤ depth') :
    decodeStructWith array schema depth = decodeStructWith array schema depth' := by
  funext index
  rcases Nat.lt_or_ge index schema.defs.length with inside | outside
  · have rank := grounded.rank_lt_length inside
    exact decodeStructWith_congr array grounded (Nat.lt_of_lt_of_le rank deep)
      (Nat.lt_of_lt_of_le rank deep')
  · rw [decodeStructWith_of_le array outside, decodeStructWith_of_le array outside]

/-- How much input is left makes no difference to the depth that is needed. -/
theorem decodeFieldWith_eq (type : FieldType) :
    decodeFieldWith array schema type =
      decodeTypeWith array (decodeStructWith array schema schema.defs.length) type := by
  funext c
  have deep : schema.defs.length ≤ depthBound schema c :=
    Nat.le_mul_of_pos_left _ (Nat.succ_pos _)
  rw [decodeFieldWith, decodeStructWith_eq array grounded deep (Nat.le_refl _)]

/-- Structs inside others are decoded as they are by themselves. -/
theorem decodeFieldWith_struct_eq :
    (fun j => decodeFieldWith array schema (.struct j)) =
      decodeStructWith array schema schema.defs.length :=
  funext fun j => decodeFieldWith_eq array grounded (.struct j)

/-- Types are walked without a bound on the depth. -/
theorem decodeFieldWith_type (type : FieldType) :
    decodeFieldWith array schema type =
      decodeTypeWith array (fun j => decodeFieldWith array schema (.struct j)) type := by
  rw [decodeFieldWith_struct_eq array grounded, decodeFieldWith_eq array grounded]

/-- So are structs. -/
theorem decodeFieldWith_struct {index : Nat} {d : StructDef}
    (located : schema.defs[index]? = some d) :
    decodeFieldWith array schema (.struct index) = do
      return .object d.name (←
        decodeFieldsWith array (fun j => decodeFieldWith array schema (.struct j)) d.fields) := by
  have deeper : decodeStructWith array schema schema.defs.length index =
      decodeStructWith array schema (schema.defs.length + 1) index := by
    rw [decodeStructWith_eq array grounded (Nat.le_refl _) (Nat.le_succ _)]
  rw [decodeFieldWith_eq array grounded, decodeTypeWith, deeper, decodeStructWith, located,
    decodeFieldWith_struct_eq array grounded]

end Depth

section Decoding

variable {schema : Schema} (grounded : schema.Grounded)
include grounded

/-- How much input is left makes no difference to the depth that decoding needs. -/
theorem decodeAt_eq : decodeAt schema = decodeStruct schema schema.defs.length :=
  decodeFieldWith_struct_eq Decode.list grounded

/-- The bound on the depth can be left out of what decoding a struct means. -/
theorem decodeAt_unfold {index : Nat} {d : StructDef} (located : schema.defs[index]? = some d) :
    decodeAt schema index = do
      return .object d.name (← decodeFields (decodeAt schema) d.fields) :=
  decodeFieldWith_struct Decode.list grounded located

end Decoding
end SchemaWire.Value

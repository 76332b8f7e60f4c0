import Std.Data.HashMap
import SchemaWire.Wire.Scalar

/-!
The twelve built-in field types, and resolved schemas: struct definitions in declaration order, with
references between them as positions in that order. A struct's frame type id is its position plus
one.
-/
namespace SchemaWire

inductive PrimitiveType where
  | scalar (t : ScalarType)
  | text
deriving DecidableEq, Repr

namespace PrimitiveType

def name : PrimitiveType → String
  | .scalar t => t.name
  | .text => "str"

/-- Width in bytes; texts have none. -/
def fixedSize? : PrimitiveType → Option Nat
  | .scalar t => some t.size
  | .text => none

def all : List PrimitiveType :=
  ([.u8, .u16, .u32, .u64, .i8, .i16, .i32, .i64, .f32, .f64].map fun w => .scalar (.word w)) ++
    [.scalar .bool, .text]

/-- The built-in type of that spelling, in exactly that case. -/
def ofName? (name : String) : Option PrimitiveType := all.find? (·.name == name)

theorem ofName?_name (p : PrimitiveType) : ofName? p.name = some p := by
  rcases p with (w | _) | _
  · cases w <;> rfl
  · rfl
  · rfl

theorem name_ne_of_ofName? {text : String} (missing : ofName? text = none) (p : PrimitiveType) :
    p.name ≠ text := by
  rintro rfl
  rw [ofName?_name] at missing
  cases missing

theorem name_inj {p q : PrimitiveType} (h : p.name = q.name) : p = q := by
  have found := ofName?_name p
  rw [h, ofName?_name] at found
  exact (Option.some.inj found).symm

end PrimitiveType

inductive FieldType where
  | primitive (p : PrimitiveType)
  | struct (index : Nat)
  | array (element : FieldType)
deriving DecidableEq, Repr

structure FieldDef where
  name : String
  type : FieldType
  optional : Bool
deriving DecidableEq, Repr

structure StructDef where
  name : String
  fields : List FieldDef
deriving DecidableEq, Repr

/-- The first field of that name. -/
def StructDef.field? (d : StructDef) (name : String) : Option FieldDef :=
  d.fields.find? (·.name == name)

structure Schema where
  defs : List StructDef
deriving DecidableEq, Repr

namespace Schema

/-- Where each name is defined. A name that is defined again stays with its first struct. -/
def nameTable (s : Schema) : Std.HashMap String Nat :=
  s.defs.zipIdx.foldl (fun table entry => table.insertIfNew entry.1.name entry.2) ∅

def indexOf? (s : Schema) (name : String) : Option Nat := s.nameTable[name]?

def def? (s : Schema) (name : String) : Option StructDef :=
  (s.indexOf? name).bind fun index => s.defs[index]?

theorem getElem?_foldl_insertIfNew (defs : List StructDef) (start : Nat)
    (table : Std.HashMap String Nat) (name : String) :
    ((defs.zipIdx start).foldl (fun table entry => table.insertIfNew entry.1.name entry.2)
      table)[name]? =
      table[name]?.or ((defs.findIdx? (·.name == name)).map (· + start)) := by
  induction defs generalizing start table with
  | nil => simp
  | cons d rest ih =>
      rw [List.zipIdx_cons, List.foldl_cons, ih, List.findIdx?_cons,
        Std.HashMap.getElem?_insertIfNew]
      by_cases same : d.name = name
      · cases found : table[name]? with
        | none => simp [same, Std.HashMap.mem_iff_isSome_getElem?, found]
        | some index => simp [same, Std.HashMap.mem_iff_isSome_getElem?, found]
      · simp [same, Function.comp_def, Nat.add_assoc, Nat.add_comm 1]

/-- A name leads to the first struct that has it. -/
theorem indexOf?_eq_findIdx? (s : Schema) (name : String) :
    s.indexOf? name = s.defs.findIdx? (·.name == name) := by
  rw [indexOf?, nameTable, getElem?_foldl_insertIfNew]
  simp

theorem def?_eq_find? (s : Schema) (name : String) :
    s.def? name = s.defs.find? (·.name == name) := by
  rw [def?, indexOf?_eq_findIdx?]
  induction s.defs with
  | nil => rfl
  | cons d rest ih =>
      rw [List.findIdx?_cons, List.find?_cons]
      cases d.name == name with
      | true => rfl
      | false => simpa [Option.bind_map, Function.comp_def] using ih

/-- The frame type id of the struct at a position; only 16 bits are kept. -/
def typeIdAt (index : Nat) : UInt16 := UInt16.ofNat (index + 1)

def typeIdOf? (s : Schema) (name : String) : Option UInt16 := (s.indexOf? name).map typeIdAt

def indexOfTypeId? (s : Schema) (id : UInt16) : Option Nat :=
  if id.toNat == 0 then none
  else if id.toNat - 1 < s.defs.length then some (id.toNat - 1) else none

end Schema
end SchemaWire

import SchemaWire.Value.Basic
import SchemaWire.Wire.Frame

/-!
Decoding a value by walking its schema. Types are walked by recursion; how arrays and references to
structs are decoded are parameters. `decodeStructWith` ties the knot with a bound on the nesting of
structs, and decoding proper reads arrays by `Decode.list`.
-/
namespace SchemaWire.Value

section Walk

variable (array : Decode Value → Decode (List Value))

def decodeTypeWith (struct : Nat → Decode Value) : FieldType → Decode Value
  | .primitive (.scalar t) => do return .scalar t (← Decode.scalar t)
  | .primitive .text => do return .text (← Decode.text)
  | .struct index => struct index
  | .array element => do return .array (← array (decodeTypeWith struct element))

/-- The fields of a struct in declaration order. An absent optional field leaves no entry. -/
def decodeFieldsWith (struct : Nat → Decode Value) :
    List FieldDef → Decode (List (String × Value))
  | [] => pure []
  | f :: rest => do
    if f.optional then
      match ← Decode.option (decodeTypeWith array struct f.type) with
      | some v => return (f.name, v) :: (← decodeFieldsWith struct rest)
      | none => decodeFieldsWith struct rest
    else
      let v ← decodeTypeWith array struct f.type
      return (f.name, v) :: (← decodeFieldsWith struct rest)

/-- The struct at a position of the schema, with at most `depth` structs inside one another. -/
def decodeStructWith (schema : Schema) : (depth : Nat) → (index : Nat) → Decode Value
  | 0, index =>
    if index < schema.defs.length then throw .endlessSchema
    else throw (.schemaMismatch (.noStruct index))
  | depth + 1, index =>
    match schema.defs[index]? with
    | some d => do
      return .object d.name (← decodeFieldsWith array (decodeStructWith schema depth) d.fields)
    | none => throw (.schemaMismatch (.noStruct index))

/-- Structs may nest once for each definition between any two bytes read; beyond that a struct
contains itself and no input ends it. -/
def depthBound (schema : Schema) (c : Cursor) : Nat :=
  (c.remaining + 1) * schema.defs.length

def decodeFieldWith (schema : Schema) (type : FieldType) : Decode Value := fun c =>
  decodeTypeWith array (decodeStructWith array schema (depthBound schema c)) type c

end Walk

def decodeType : (struct : Nat → Decode Value) → FieldType → Decode Value :=
  decodeTypeWith Decode.list

def decodeFields : (struct : Nat → Decode Value) → List FieldDef →
    Decode (List (String × Value)) :=
  decodeFieldsWith Decode.list

def decodeStruct : Schema → (depth : Nat) → (index : Nat) → Decode Value :=
  decodeStructWith Decode.list

def decodeField : Schema → FieldType → Decode Value := decodeFieldWith Decode.list

theorem decodeStruct_succ {schema : Schema} {index : Nat} {d : StructDef}
    (located : schema.defs[index]? = some d) (depth : Nat) :
    decodeStruct schema (depth + 1) index = do
      return .object d.name (← decodeFields (decodeStruct schema depth) d.fields) := by
  rw [decodeStruct, decodeStructWith, located]
  rfl

/-- The struct at a position of the schema, at the cursor. -/
def decodeAt (schema : Schema) (index : Nat) : Decode Value := fun c =>
  decodeStruct schema (depthBound schema c) index c

/-- Decodes a payload as the struct at a position of the schema. -/
def decode (schema : Schema) (index : Nat) (raw : Bytes) : Except WireError Value :=
  Decode.payload (decodeAt schema index) raw

def decodeMessage (schema : Schema) (raw : Bytes) : Except WireError Value := do
  let (header, payload) ← FrameHeader.parse raw
  match schema.indexOfTypeId? header.typeId with
  | some index => decode schema index payload
  | none => throw (.unknownTypeId header.typeId)

end SchemaWire.Value

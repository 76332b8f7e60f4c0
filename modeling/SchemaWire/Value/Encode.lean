import SchemaWire.Value.Basic
import SchemaWire.Wire.Frame

/-!
Encoding a value by its schema. `sizeAs` computes the number of bytes and `encodeAs` writes them;
both refuse a value that does not fit the type, for the same reason.
-/
namespace SchemaWire.Value

def expectation : FieldType → String
  | .primitive p => p.name
  | .struct _ => "object"
  | .array _ => "array"

/-- The value is of another kind than the type asks for. -/
def mismatch (type : FieldType) (v : Value) : WireError :=
  .schemaMismatch (.wrongKind (expectation type) v.kind)

/-- A value is of a built-in type if the word for its kind is the spelling of the type. -/
def checkPrimitive (p : PrimitiveType) (v : Value) : Except WireError Unit :=
  if p.name == v.kind then .ok () else .error (mismatch (.primitive p) v)

/-- The definition at a position, provided it has the name of the object at hand. -/
def expectDef (schema : Schema) (index : Nat) (name : String) : Except WireError StructDef :=
  match schema.defs[index]? with
  | some d =>
    if d.name == name then .ok d else .error (.schemaMismatch (.wrongStruct d.name name))
  | none => .error (.schemaMismatch (.noStruct index))

/-- Refuses an entry whose name is no field of the struct. -/
def checkNoExtra (d : StructDef) (fields : List (String × Value)) : Except WireError Unit :=
  match fields.find? (fun entry => (d.field? entry.1).isNone) with
  | some entry => .error (.schemaMismatch (.extraField d.name entry.1))
  | none => .ok ()

def structFor (schema : Schema) (index : Nat) (name : String) (fields : List (String × Value)) :
    Except WireError StructDef := do
  let d ← expectDef schema index name
  checkNoExtra d fields
  return d

/-- The bytes of one field, given the size of its value if it has one. -/
def fieldSize (d : StructDef) (f : FieldDef) :
    Option (Except WireError Nat) → Except WireError Nat
  | some size => if f.optional then do return 1 + (← size) else size
  | none =>
    if f.optional then .ok 1 else .error (.schemaMismatch (.missingField d.name f.name))

/-- Writes one field, given the encoder of its value if it has one. -/
def encodeField (d : StructDef) (f : FieldDef) : Option (Encode Unit) → Encode Unit
  | some value =>
    if f.optional then do
      Encode.scalar .bool true
      value
    else value
  | none =>
    if f.optional then Encode.scalar .bool false
    else Encode.reject (.schemaMismatch (.missingField d.name f.name))

mutual

/-- Exact number of bytes that `encodeAs` writes. -/
def sizeAs (schema : Schema) : Value → FieldType → Except WireError Nat
  | .text s, .primitive .text => .ok (4 + s.utf8ByteSize)
  | v, .primitive p => do
    checkPrimitive p v
    return p.fixedSize?.getD 0
  | .array items, .array element => do return 4 + (← sizeItems schema items element)
  | .object name fields, .struct index => do
    let d ← structFor schema index name fields
    d.fields.foldlM (fun total f => do
      return total + (← fieldSize d f (sizeNamed schema fields f.name f.type))) 0
  | v, type => .error (mismatch type v)

def sizeItems (schema : Schema) : List Value → FieldType → Except WireError Nat
  | [], _ => .ok 0
  | item :: rest, type => do
    let first ← sizeAs schema item type
    return first + (← sizeItems schema rest type)

def sizeNamed (schema : Schema) :
    List (String × Value) → String → FieldType → Option (Except WireError Nat)
  | [], _, _ => none
  | (key, v) :: rest, name, type =>
    if key == name then some (sizeAs schema v type) else sizeNamed schema rest name type

end

mutual

/-- Writes a value as the given type. What was written before a refusal stays. -/
def encodeAs (schema : Schema) : Value → FieldType → Encode Unit
  | .text s, .primitive .text => Encode.text s
  | .scalar t x, .primitive (.scalar u) =>
    if t == u then Encode.scalar t x
    else Encode.reject (mismatch (.primitive (.scalar u)) (.scalar t x))
  | .array items, .array element => do
    Encode.length items.length
    encodeItems schema items element
  | .object name fields, .struct index =>
    match structFor schema index name fields with
    | .ok d => d.fields.forM fun f => encodeField d f (encodeNamed schema fields f.name f.type)
    | .error e => Encode.reject e
  | v, type => Encode.reject (mismatch type v)

def encodeItems (schema : Schema) : List Value → FieldType → Encode Unit
  | [], _ => pure ()
  | item :: rest, type => do
    encodeAs schema item type
    encodeItems schema rest type

def encodeNamed (schema : Schema) :
    List (String × Value) → String → FieldType → Option (Encode Unit)
  | [], _, _ => none
  | (key, v) :: rest, name, type =>
    if key == name then some (encodeAs schema v type) else encodeNamed schema rest name type

end

/-- The position of the struct that a top-level object names. -/
def structIndex (schema : Schema) : Value → Except WireError Nat
  | .object name _ =>
    match schema.indexOf? name with
    | some index => .ok index
    | none => .error (.schemaMismatch (.unknownStruct name))
  | _ => .error (.schemaMismatch .notAnObject)

def encodedSize (schema : Schema) (v : Value) : Except WireError Nat := do
  let index ← structIndex schema v
  sizeAs schema v (.struct index)

/-- Encodes an object as the struct it names, into a buffer of exactly its size. -/
def encode (schema : Schema) (v : Value) : Except WriteFault Bytes := do
  let index ← (structIndex schema v).mapError .rejected
  let size ← (sizeAs schema v (.struct index)).mapError .rejected
  match encodeAs schema v (.struct index) (Buffer.blank size 0) with
  | .ok () b => return b.contents
  | .error fault _ => throw fault

def encodeMessage (schema : Schema) (v : Value) : Except WriteFault Bytes := do
  let index ← (structIndex schema v).mapError .rejected
  let payload ← encode schema v
  return Frame.encode (Schema.typeIdAt index) payload

end SchemaWire.Value

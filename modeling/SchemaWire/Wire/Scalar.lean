import SchemaWire.Wire.Error

/-! Fixed-width scalars: little-endian words of one, two, four or eight bytes, and booleans. -/
namespace SchemaWire

abbrev Bytes := List UInt8

/-- The list has `n` or more elements; looks at no more than `n`. -/
def hasAtLeast {α : Type} : Nat → List α → Bool
  | 0, _ => true
  | _ + 1, [] => false
  | n + 1, _ :: rest => hasAtLeast n rest

/-- The low `width` bytes of a number, least significant first. -/
def littleEndian : (width : Nat) → Nat → Bytes
  | 0, _ => []
  | width + 1, n => UInt8.ofNat n :: littleEndian width (n / 256)

def ofLittleEndian : Bytes → Nat
  | [] => 0
  | b :: rest => b.toNat + 256 * ofLittleEndian rest

/-- The types whose values are words, each bit pattern a value. -/
inductive WordType where
  | u8 | u16 | u32 | u64
  | i8 | i16 | i32 | i64
  | f32 | f64
deriving DecidableEq, Repr

def WordType.size : WordType → Nat
  | .u8 | .i8 => 1
  | .u16 | .i16 => 2
  | .u32 | .i32 | .f32 => 4
  | .u64 | .i64 | .f64 => 8

def WordType.name : WordType → String
  | .u8 => "u8"
  | .u16 => "u16"
  | .u32 => "u32"
  | .u64 => "u64"
  | .i8 => "i8"
  | .i16 => "i16"
  | .i32 => "i32"
  | .i64 => "i64"
  | .f32 => "f32"
  | .f64 => "f64"

/-- The types with a fixed width on the wire. -/
inductive ScalarType where
  | word (w : WordType)
  | bool
deriving DecidableEq, Repr

namespace ScalarType

def size : ScalarType → Nat
  | .word w => w.size
  | .bool => 1

def name : ScalarType → String
  | .word w => w.name
  | .bool => "bool"

/-- The values of a scalar type. A float is kept as its bit pattern, so that every NaN survives. -/
@[reducible] def Carrier : ScalarType → Type
  | .word w => BitVec (8 * w.size)
  | .bool => Bool

/-- The wire form of a scalar, exactly `size` bytes. -/
def toBytes : (t : ScalarType) → t.Carrier → Bytes
  | .word w, x => littleEndian w.size x.toNat
  | .bool, x => [if x then 1 else 0]

/-- Rejects byte patterns that stand for no value. Only booleans have any. -/
def check : ScalarType → Bytes → Except WireError Unit
  | .word _, _ => .ok ()
  | .bool, bytes =>
    let byte := bytes.headD 0
    if byte == 0 || byte == 1 then .ok () else .error (.invalidBool byte)

/-- The value of `size` bytes that passed `check`. -/
def ofBytes : (t : ScalarType) → Bytes → t.Carrier
  | .word w, bytes => BitVec.ofNat (8 * w.size) (ofLittleEndian bytes)
  | .bool, bytes => bytes.headD 0 == 1

def zero : (t : ScalarType) → t.Carrier
  | .word _ => 0
  | .bool => false

end ScalarType

def textOfBytes? (bytes : Bytes) : Option String := String.fromUTF8? ⟨bytes.toArray⟩

def bytesOfText (s : String) : Bytes := s.toByteArray.data.toList

end SchemaWire

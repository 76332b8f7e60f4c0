import SchemaWire.Decimal.Style
import SchemaWire.Wire.Scalar

/-! Scalars as numbers: their text, their comparison and their widening. -/
namespace SchemaWire

open Decimal (FloatFormat FloatStyle FloatValue twoTo)

/-- The number a word stands for, as text; a style says how floats are written. -/
def WordType.render (style : FloatFormat → FloatStyle) : (w : WordType) → BitVec (8 * w.size) → String
  | .u8, x => toString x.toNat
  | .u16, x => toString x.toNat
  | .u32, x => toString x.toNat
  | .u64, x => toString x.toNat
  | .i8, x => toString x.toInt
  | .i16, x => toString x.toInt
  | .i32, x => toString x.toInt
  | .i64, x => toString x.toInt
  | .f32, x => (style .single).render .single x.toNat
  | .f64, x => (style .double).render .double x.toNat

namespace ScalarType

def render (style : FloatFormat → FloatStyle) : (t : ScalarType) → t.Carrier → String
  | .word w, x => w.render style x
  | .bool, x => if x then "true" else "false"

def dump (t : ScalarType) (x : t.Carrier) : String := t.render (fun _ => FloatStyle.dump) x

def json (t : ScalarType) (x : t.Carrier) : String := t.render FloatStyle.json x

end ScalarType

/-- Numbers compare by bit pattern, but a NaN equals nothing and the two zeros are equal. -/
def floatEqual (format : FloatFormat) (x y : Nat) : Bool :=
  match format.read x, format.read y with
  | .nan, _ | _, .nan => false
  | .finite _ 0 _ _, .finite _ 0 _ _ => true
  | _, _ => x == y

/-- Equality of the values that scalars stand for. -/
def ScalarType.equal : (t : ScalarType) → t.Carrier → t.Carrier → Bool
  | .word .f32, x, y => floatEqual .single x.toNat y.toNat
  | .word .f64, x, y => floatEqual .double x.toNat y.toNat
  | .word _, x, y => x == y
  | .bool, x, y => x == y

/-- The double of the same value as a single. -/
def widenFloat (single : BitVec 32) : BitVec 64 :=
  let bits := single.toNat
  let exponent := bits / twoTo 23 % 256
  let fraction := bits % twoTo 23
  let magnitude :=
    if exponent == 255 then 2047 * twoTo 52 + fraction * twoTo 29
    else if exponent != 0 then (exponent + 896) * twoTo 52 + fraction * twoTo 29
    else if fraction == 0 then 0
    else
      let lead := fraction.log2
      (lead + 874) * twoTo 52 + (fraction - twoTo lead) * twoTo (52 - lead)
  BitVec.ofNat 64 (bits / twoTo 31 * twoTo 63 + magnitude)

def dumpList (entries : List String) : String := "[" ++ String.intercalate ", " entries ++ "]"

end SchemaWire

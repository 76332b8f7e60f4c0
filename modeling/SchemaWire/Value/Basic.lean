import SchemaWire.Json
import SchemaWire.Schema.Basic
import SchemaWire.Wire.ScalarText

/-!
Dynamic values. An object names its struct and lists its fields in order; an absent optional field
is simply not listed.
-/
namespace SchemaWire

inductive Value where
  | scalar (t : ScalarType) (x : t.Carrier)
  | text (s : String)
  | array (items : List Value)
  | object (name : String) (fields : List (String × Value))

namespace Value

def kind : Value → String
  | .scalar t _ => t.name
  | .text _ => "str"
  | .array _ => "array"
  | .object .. => "object"

/-- A boolean, or `false` for any other kind. -/
def asBool : Value → Bool
  | .scalar .bool x => x
  | _ => false

/-- An unsigned integer of any width, or `0` for any other kind. -/
def asUnsigned : Value → Nat
  | .scalar (.word .u8) x => x.toNat
  | .scalar (.word .u16) x => x.toNat
  | .scalar (.word .u32) x => x.toNat
  | .scalar (.word .u64) x => x.toNat
  | _ => 0

/-- A signed integer of any width, or `0` for any other kind. -/
def asSigned : Value → Int
  | .scalar (.word .i8) x => x.toInt
  | .scalar (.word .i16) x => x.toInt
  | .scalar (.word .i32) x => x.toInt
  | .scalar (.word .i64) x => x.toInt
  | _ => 0

/-- A float of either width as the bits of a double, or zero for any other kind. -/
def asFloat : Value → BitVec 64
  | .scalar (.word .f32) x => widenFloat x
  | .scalar (.word .f64) x => x
  | _ => 0

def asText : Value → String
  | .text s => s
  | _ => ""

def asArray : Value → List Value
  | .array items => items
  | _ => []

def length (v : Value) : Nat := v.asArray.length

def isEmpty (v : Value) : Bool := v.length == 0

/-- Appends to an array; other kinds stay as they are. -/
def push (v item : Value) : Value :=
  match v with
  | .array items => .array (items ++ [item])
  | other => other

def element? (v : Value) (index : Nat) : Option Value := v.asArray[index]?

/-- The first entry of that name. -/
def lookup (name : String) : List (String × Value) → Option Value
  | [] => none
  | (key, v) :: rest => if key == name then some v else lookup name rest

/-- Puts a value in the place of the first entry of that name, or behind all others. -/
def insert (name : String) (v : Value) : List (String × Value) → List (String × Value)
  | [] => [(name, v)]
  | (key, old) :: rest =>
    if key == name then (key, v) :: rest else (key, old) :: insert name v rest

def get? (v : Value) (name : String) : Option Value :=
  match v with
  | .object _ fields => lookup name fields
  | _ => none

/-- Updates or adds a field of an object; other kinds stay as they are. -/
def set (v : Value) (name : String) (x : Value) : Value :=
  match v with
  | .object struct fields => .object struct (insert name x fields)
  | other => other

/-- Removes every field of that name from an object; other kinds stay as they are. -/
def remove (v : Value) (name : String) : Value :=
  match v with
  | .object struct fields => .object struct (fields.filter (·.1 != name))
  | other => other

/-- Scalars of the same type are compared as numbers. -/
def equalScalars (t u : ScalarType) (x : t.Carrier) (y : u.Carrier) : Bool :=
  if h : u = t then t.equal x (h ▸ y) else false

mutual

/-- Equality of kind and contents; floats compare as numbers. -/
def equal : Value → Value → Bool
  | .scalar t x, .scalar u y => equalScalars t u x y
  | .text s, .text r => s == r
  | .array xs, .array ys => equalItems xs ys
  | .object n fs, .object m gs => n == m && equalFields fs gs
  | _, _ => false

def equalItems : List Value → List Value → Bool
  | [], [] => true
  | x :: xs, y :: ys => equal x y && equalItems xs ys
  | _, _ => false

def equalFields : List (String × Value) → List (String × Value) → Bool
  | [], [] => true
  | (n, x) :: xs, (m, y) :: ys => n == m && equal x y && equalFields xs ys
  | _, _ => false

end

mutual

def dump : Value → String
  | .scalar t x => t.dump x
  | .text s => Text.dumpQuote s
  | .array items => dumpList (dumpItems items)
  | .object name fields =>
    name ++ " \x7b" ++ String.intercalate ", " (dumpFields fields) ++ "\x7d"

def dumpItems : List Value → List String
  | [] => []
  | item :: rest => dump item :: dumpItems rest

def dumpFields : List (String × Value) → List String
  | [] => []
  | (name, item) :: rest => (name ++ ": " ++ dump item) :: dumpFields rest

end

mutual

/-- A value as a JSON document; an object's struct name is left out. -/
def toJson : Value → Json
  | .scalar t x => .literal (t.json x)
  | .text s => .string s
  | .array items => .array (jsonItems items)
  | .object _ fields => .object (jsonFields fields)

def jsonItems : List Value → List Json
  | [] => []
  | item :: rest => toJson item :: jsonItems rest

def jsonFields : List (String × Value) → List (String × Json)
  | [] => []
  | (name, item) :: rest => (name, toJson item) :: jsonFields rest

end

end Value
end SchemaWire

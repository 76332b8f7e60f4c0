import SchemaWire.Wire.Scalar

/-! Views: the raw bytes of a fixed-width array, read element by element on access. -/
namespace SchemaWire

/-- The first `count` blocks of `width` bytes, put before the blocks already in `done`. -/
def blocks (width : Nat) : (count : Nat) → Bytes → (done : List Bytes) → List Bytes
  | 0, _, done => done.reverse
  | count + 1, bytes, done => blocks width count (bytes.drop width) (bytes.take width :: done)

/-- Where the element at an index lies among elements of `width` bytes, from its first byte up to the
one behind its last. Nothing lies where the first byte has no position. -/
def span? (width index : Nat) : Option (Nat × Nat) :=
  let start := index * width
  if start ≤ maxPosition then some (start, start + width) else none

/-- The bytes of a span, if all of them are there. -/
def slice? (bytes : Bytes) (start stop : Nat) : Option Bytes :=
  if stop ≤ bytes.length then some ((bytes.drop start).take (stop - start)) else none

/-- The bytes of an array of scalars, each of which passed the scalar's check. -/
structure View (t : ScalarType) where
  bytes : Bytes
deriving DecidableEq

namespace View

def checkElements (t : ScalarType) : (count : Nat) → Bytes → Except WireError Unit
  | 0, _ => .ok ()
  | count + 1, bytes =>
    match t.check (bytes.take t.size) with
    | .ok () => checkElements t count (bytes.drop t.size)
    | .error e => .error e

/-- Bytes must hold a whole number of valid elements. -/
def ofBytes (t : ScalarType) (bytes : Bytes) : Except WireError (View t) :=
  let size := bytes.length
  if size % t.size != 0 then .error (.unexpectedEnd (size + (t.size - size % t.size)) size)
  else
    match checkElements t (size / t.size) bytes with
    | .ok () => .ok ⟨bytes⟩
    | .error e => .error e

variable {t : ScalarType}

def empty : View t := ⟨[]⟩

def length (v : View t) : Nat := v.bytes.length / t.size

def isEmpty (v : View t) : Bool := v.bytes.isEmpty

/-- Random access; `none` past the end. -/
def get? (v : View t) (index : Nat) : Option t.Carrier := do
  let (start, stop) ← span? t.size index
  return t.ofBytes (← slice? v.bytes start stop)

def toList (v : View t) : List t.Carrier :=
  (blocks t.size v.length v.bytes []).map t.ofBytes

end View
end SchemaWire

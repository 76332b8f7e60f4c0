import SchemaWire.Wire.View

/-!
Reading. A cursor holds the bytes still to be read, how many were read before them, and how many
array elements were announced so far. A decoder moves the cursor and may fail; the cursor after a
failure is part of the answer.
-/
namespace SchemaWire

structure Cursor where
  rest : Bytes
  index : Nat
  elements : Nat
deriving DecidableEq, Repr

namespace Cursor

def ofBytes (bytes : Bytes) : Cursor := ⟨bytes, 0, 0⟩

def remaining (c : Cursor) : Nat := c.rest.length

/-- Length of the whole input. -/
def size (c : Cursor) : Nat := c.index + c.remaining

end Cursor

abbrev Decode := EStateM WireError Cursor

/-- A byte position, which stops at the largest there is. -/
def position (n : Nat) : Nat := min n maxPosition

namespace Decode

def ofExcept {α : Type} : Except WireError α → Decode α
  | .ok a => pure a
  | .error e => throw e

/-- Fails unless `n` more bytes are there. Moves nothing. -/
def expect (n : Nat) : Decode Unit := fun c =>
  if hasAtLeast n c.rest then .ok () c
  else .error (.unexpectedEnd (position (c.index + n)) c.size) c

def bytes (n : Nat) : Decode Bytes := do
  expect n
  fun c => .ok (c.rest.take n) { c with rest := c.rest.drop n, index := c.index + n }

/-- A scalar. A bad boolean is consumed before it is refused. -/
def scalar (t : ScalarType) : Decode t.Carrier := do
  let raw ← bytes t.size
  ofExcept (t.check raw)
  return t.ofBytes raw

/-- The 32-bit number in front of texts and arrays. -/
def length : Decode Nat := do
  let n ← scalar (.word .u32)
  return n.toNat

/-- A text: its length in bytes, then its UTF-8 bytes. -/
def text : Decode String := do
  let raw ← bytes (← length)
  match textOfBytes? raw with
  | some s => return s
  | none => throw .invalidUtf8

/-- Adds an array of `count` elements to the tally, within the limits of one array and of one
message. A count over the limit of one array is not added. -/
def tally (count : Nat) : Decode Nat := fun c =>
  if maxArrayElements < count then .error (.arrayTooLarge count) c
  else
    let total := c.elements + count
    if maxTotalElements < total then .error (.tooManyElements total) { c with elements := total }
    else .ok count { c with elements := total }

def count : Decode Nat := do tally (← length)

/-- A fixed-width array, left in its wire form. -/
def view (t : ScalarType) : Decode (View t) := do
  let raw ← bytes ((← count) * t.size)
  ofExcept (View.ofBytes t raw)

def packed (t : ScalarType) : Decode (List t.Carrier) := do
  return (← view t).toList

/-- Runs a decoder `count` times, behind the results already in `done`. -/
def times {α : Type} (item : Decode α) : (count : Nat) → (done : List α) → Decode (List α)
  | 0, done, c => .ok done.reverse c
  | count + 1, done, c =>
    match item c with
    | .ok a c => times item count (a :: done) c
    | .error e c => .error e c

/-- An array of items. Items take at least one byte each, so a count above the number of bytes left
is refused at once. -/
def list {α : Type} (item : Decode α) : Decode (List α) := do
  let n ← count
  expect n
  times item n []

/-- A presence flag and, when it is set, an item. -/
def option {α : Type} (item : Decode α) : Decode (Option α) := do
  let present ← scalar .bool
  if present then return some (← item) else return none

/-- Decodes a payload within the size limit. Bytes after the value are ignored. -/
def payload {α : Type} (item : Decode α) (raw : Bytes) : Except WireError α :=
  match checkSerializedSize raw.length with
  | .error e => .error e
  | .ok () =>
    match item (Cursor.ofBytes raw) with
    | .ok a _ => .ok a
    | .error e _ => .error e

end Decode
end SchemaWire

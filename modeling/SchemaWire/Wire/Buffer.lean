import SchemaWire.Wire.Scalar

/-!
Writing. A buffer is the bytes before its cursor and the room behind it, whose old contents show
until they are written over. A write that does not fit changes nothing.
-/
namespace SchemaWire

structure Buffer where
  written : Array UInt8
  room : Bytes
deriving DecidableEq, Repr

namespace Buffer

def ofBytes (bytes : Bytes) : Buffer := ⟨#[], bytes⟩

def blank (size : Nat) (fill : UInt8) : Buffer := ofBytes (List.replicate size fill)

def index (b : Buffer) : Nat := b.written.size

def remaining (b : Buffer) : Nat := b.room.length

/-- All bytes of the buffer, before and behind the cursor. -/
def contents (b : Buffer) : Bytes := b.written.toList ++ b.room

end Buffer

/-- Why writing stops: the buffer is full, or the value must not be written. -/
inductive WriteFault where
  | overflow
  | rejected (error : WireError)
deriving DecidableEq, Repr

abbrev Encode := EStateM WriteFault Buffer

namespace Encode

/-- Writes bytes as they are. -/
def bytes (raw : Bytes) : Encode Unit := fun b =>
  if hasAtLeast raw.length b.room then
    .ok () { written := b.written.appendList raw, room := b.room.drop raw.length }
  else .error .overflow b

def reject {α : Type} (error : WireError) : Encode α := throw (.rejected error)

def scalar (t : ScalarType) (x : t.Carrier) : Encode Unit := bytes (t.toBytes x)

/-- The 32-bit number in front of texts and arrays; higher bits are lost. -/
def length (n : Nat) : Encode Unit := bytes (littleEndian 4 n)

def text (s : String) : Encode Unit := do
  let raw := bytesOfText s
  length raw.length
  bytes raw

def packed (t : ScalarType) (xs : List t.Carrier) : Encode Unit := do
  length xs.length
  xs.forM (scalar t)

def list {α : Type} (item : α → Encode Unit) (xs : List α) : Encode Unit := do
  length xs.length
  xs.forM item

/-- A presence flag and, for a present item, the item. -/
def option {α : Type} (item : α → Encode Unit) : Option α → Encode Unit
  | some x => do
    scalar .bool true
    item x
  | none => scalar .bool false

/-- Runs an encoder and gives the buffer it leaves behind. -/
def finish (encoder : Encode Unit) (b : Buffer) : Buffer :=
  match encoder b with
  | .ok () b => b
  | .error _ b => b

end Encode
end SchemaWire

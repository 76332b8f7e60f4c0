import SchemaWire.Wire.View

/-!
Bump allocation. An arena owns one region that grows by doubling; what it hands out is named by
handles, not addresses, so growth invalidates nothing. A reset rewinds the region and makes every
earlier handle stale.
-/
namespace SchemaWire

structure Arena where
  region : Array UInt8
  /-- Bytes handed out since the last reset, padding included. -/
  used : Nat
  /-- Number of resets so far, modulo `2^32`. -/
  generation : UInt32
deriving DecidableEq, Repr

/-- A place in an arena and the generation it was allocated in. -/
structure Handle where
  offset : Nat
  /-- Bytes of a text, elements of an array. -/
  length : Nat
  generation : UInt32
deriving DecidableEq, Repr

namespace Arena

/-- Every allocation starts at a multiple of this. -/
def align : Nat := 8

/-- The least capacity that growth starts from. -/
def minGrowth : Nat := 64

def withCapacity (capacity : Nat) : Arena := ⟨Array.replicate capacity 0, 0, 0⟩

def capacity (a : Arena) : Nat := a.region.size

/-- Takes back all that was handed out. The region is kept. -/
def reset (a : Arena) : Arena := { a with used := 0, generation := a.generation + 1 }

def roundUp (size : Nat) : Nat := (size + align - 1) / align * align

/-- Doubles a positive capacity until it reaches the goal. -/
def doubled (goal capacity : Nat) : Nat :=
  if capacity < goal ∧ 0 < capacity then doubled goal (capacity * 2) else capacity
termination_by goal - capacity

/-- Makes the region at least `goal` bytes long; new bytes are zero. -/
def ensure (goal : Nat) (a : Arena) : Arena :=
  if goal ≤ a.region.size then a
  else
    let size := doubled goal (max a.region.size minGrowth)
    { a with region := a.region ++ Array.replicate (size - a.region.size) 0 }

/-- Reserves `size` bytes and gives their offset. -/
def alloc (size : Nat) (a : Arena) : Nat × Arena :=
  let goal := a.used + roundUp size
  (a.used, { a.ensure goal with used := goal })

def overwrite : Array UInt8 → (offset : Nat) → Bytes → Array UInt8
  | region, _, [] => region
  | region, offset, b :: rest => overwrite (region.setIfInBounds offset b) (offset + 1) rest

def store (offset : Nat) (raw : Bytes) (a : Arena) : Arena :=
  { a with region := overwrite a.region offset raw }

/-- Reserves room for bytes and copies them there; `length` is what the handle says. -/
def allocAs (length : Nat) (raw : Bytes) (a : Arena) : Handle × Arena :=
  let generation := a.generation
  let (offset, a) := a.alloc raw.length
  (⟨offset, length, generation⟩, a.store offset raw)

def allocBytes (raw : Bytes) (a : Arena) : Handle × Arena := a.allocAs raw.length raw

def allocText (s : String) (a : Arena) : Handle × Arena := a.allocBytes (bytesOfText s)

def allocPacked (t : ScalarType) (xs : List t.Carrier) (a : Arena) : Handle × Arena :=
  a.allocAs xs.length (xs.flatMap t.toBytes)

/-- Copies the bytes behind a view. -/
def allocView {t : ScalarType} (v : View t) (a : Arena) : Handle × Arena :=
  a.allocAs v.length v.bytes

/-- The `length * width` bytes a handle names, unless they were released. -/
def block (a : Arena) (h : Handle) (width : Nat) : Except WireError Bytes :=
  let size := h.length * width
  if h.generation != a.generation || a.used < h.offset + size then .error .staleHandle
  else .ok (a.region.extract h.offset (h.offset + size)).toList

def text (a : Arena) (h : Handle) : Except WireError String := do
  match textOfBytes? (← a.block h 1) with
  | some s => return s
  | none => throw .invalidUtf8

def view (a : Arena) (t : ScalarType) (h : Handle) : Except WireError (View t) := do
  View.ofBytes t (← a.block h t.size)

def dump (a : Arena) : String :=
  "Arena \x7b used: " ++ toString a.used ++ ", capacity: " ++ toString a.capacity ++
    ", generation: " ++ toString a.generation.toNat ++ " \x7d"

end Arena

def Handle.dump (kind : String) (h : Handle) : String :=
  kind ++ " \x7b offset: " ++ toString h.offset ++ ", len: " ++ toString h.length ++
    ", generation: " ++ toString h.generation.toNat ++ " \x7d"

end SchemaWire

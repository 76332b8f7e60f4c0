import SchemaWire.Layout.Owned

/-!
The arena tier: texts and arrays are copied into an arena, and a value of known size, its record,
holds their handles. Lists are stored as their elements' records back to back.
-/
namespace SchemaWire

abbrev Layout.Stored (l : Layout) : Type := l.In Tier.arena
abbrev Fields.Stored (fs : Fields) : Type := fs.In Tier.arena

namespace Handle

/-- Bytes of a handle's record: two 64-bit words and a 32-bit one. -/
def recordSize : Nat := 20

def writeRecord (h : Handle) : Encode Unit := do
  Encode.bytes (littleEndian 8 h.offset)
  Encode.bytes (littleEndian 8 h.length)
  Encode.scalar (.word .u32) h.generation.toBitVec

def readRecord : Decode Handle := do
  let offset ← Decode.scalar (.word .u64)
  let length ← Decode.scalar (.word .u64)
  let generation ← Decode.scalar (.word .u32)
  return ⟨offset.toNat, length.toNat, UInt32.ofBitVec generation⟩

end Handle

mutual

def Layout.recordSize : Layout → Nat
  | .scalar t => t.size
  | .text | .packed _ | .list _ => Handle.recordSize
  | .option item => 1 + item.recordSize
  | .record _ fields => fields.recordSize

def Fields.recordSize : Fields → Nat
  | .nil => 0
  | .cons _ layout rest => layout.recordSize + rest.recordSize

end

mutual

/-- Writes a value's record. An absent option is padded with zeros. -/
def Layout.writeRecord : (l : Layout) → l.Stored → Encode Unit
  | .scalar t, x => Encode.scalar t x
  | .text, (h : Handle) => h.writeRecord
  | .packed _, (h : Handle) => h.writeRecord
  | .list _, (h : Handle) => h.writeRecord
  | .option item, x =>
    match x with
    | some y => do
      Encode.scalar .bool true
      item.writeRecord y
    | none => do
      Encode.scalar .bool false
      Encode.bytes (List.replicate item.recordSize 0)
  | .record _ fields, x => fields.writeRecord x

def Fields.writeRecord : (fs : Fields) → fs.Stored → Encode Unit
  | .nil, _ => pure ()
  | .cons _ layout rest, (x, xs) => do
    layout.writeRecord x
    rest.writeRecord xs

end

mutual

def Layout.readRecord : (l : Layout) → Decode l.Stored
  | .scalar t => Decode.scalar t
  | .text => Handle.readRecord
  | .packed _ => Handle.readRecord
  | .list _ => Handle.readRecord
  | .option item => do
    let present ← Decode.scalar .bool
    if present then return some (← item.readRecord)
    else
      let _ ← Decode.bytes item.recordSize
      return none
  | .record _ fields => fields.readRecord

def Fields.readRecord : (fs : Fields) → Decode fs.Stored
  | .nil => pure ()
  | .cons _ layout rest => do
    let x ← layout.readRecord
    let xs ← rest.readRecord
    return (x, xs)

end

/-- A decoder's cursor and the arena it fills. -/
structure ArenaCursor where
  cursor : Cursor
  arena : Arena

/-- A decoder into an arena. What it allocated before a failure stays allocated. -/
abbrev ArenaDecode := EStateM WireError ArenaCursor

namespace ArenaDecode

/-- A decoder that leaves the arena alone. -/
def read {α : Type} (d : Decode α) : ArenaDecode α := fun ⟨cursor, arena⟩ =>
  match d cursor with
  | .ok a cursor => .ok a ⟨cursor, arena⟩
  | .error e cursor => .error e ⟨cursor, arena⟩

def allocate {α : Type} (f : Arena → α × Arena) : ArenaDecode α := fun ⟨cursor, arena⟩ =>
  let (a, arena) := f arena
  .ok a ⟨cursor, arena⟩

/-- Decodes `count` items and puts their records one behind the other from an offset on. -/
def records {α : Type} (item : ArenaDecode α) (toBytes : α → Bytes) (width : Nat) :
    (count offset : Nat) → ArenaDecode Unit
  | 0, _, s => .ok () s
  | count + 1, offset, s =>
    match item s with
    | .ok x ⟨cursor, arena⟩ =>
      records item toBytes width count (offset + width) ⟨cursor, arena.store offset (toBytes x)⟩
    | .error e s => .error e s

end ArenaDecode

def Layout.recordBytes (l : Layout) (x : l.Stored) : Bytes :=
  ((l.writeRecord x).finish (Buffer.blank l.recordSize 0)).contents

mutual

/-- Reads a value into an arena. The records of a list are reserved before its elements are read,
so what the elements allocate follows them. -/
def Layout.store : (l : Layout) → ArenaDecode l.Stored
  | .scalar t => ArenaDecode.read (Decode.scalar t)
  | .text => do
    let s ← ArenaDecode.read Decode.text
    ArenaDecode.allocate (·.allocText s)
  | .packed t => do
    let v ← ArenaDecode.read (Decode.view t)
    ArenaDecode.allocate (·.allocView v)
  | .list item => do
    let count ← ArenaDecode.read Decode.count
    ArenaDecode.read (Decode.expect count)
    let h ← ArenaDecode.allocate fun a =>
      let generation := a.generation
      let (offset, a) := a.alloc (count * item.recordSize)
      ((⟨offset, count, generation⟩ : Handle), a)
    ArenaDecode.records item.store item.recordBytes item.recordSize count h.offset
    return h
  | .option item => do
    let present ← ArenaDecode.read (Decode.scalar .bool)
    if present then return some (← item.store) else return none
  | .record _ fields => fields.store

def Fields.store : (fs : Fields) → ArenaDecode fs.Stored
  | .nil => pure ()
  | .cons _ layout rest => do
    let x ← layout.store
    let xs ← rest.store
    return (x, xs)

end

def Layout.storePayload (l : Layout) (raw : Bytes) (arena : Arena) :
    Except WireError l.Stored × Arena :=
  match checkSerializedSize raw.length with
  | .error e => (.error e, arena)
  | .ok () =>
    match l.store ⟨Cursor.ofBytes raw, arena⟩ with
    | .ok x s => (.ok x, s.arena)
    | .error e s => (.error e, s.arena)

def Layout.ofRecord (l : Layout) (raw : Bytes) : Except WireError l.Stored :=
  match l.readRecord (Cursor.ofBytes raw) with
  | .ok x _ => .ok x
  | .error e _ => .error e

def Arena.records (a : Arena) (item : Layout) (h : Handle) : Except WireError (List Bytes) := do
  let raw ← a.block h item.recordSize
  return blocks item.recordSize (raw.length / item.recordSize) raw []

/-- The record at a position of a list; `none` past the end. -/
def Arena.record? (a : Arena) (item : Layout) (h : Handle) (index : Nat) :
    Except WireError (Option item.Stored) := do
  let raw ← a.block h item.recordSize
  let record? := do
    let (start, stop) ← span? item.recordSize index
    slice? raw start stop
  match record? with
  | some record => return some (← item.ofRecord record)
  | none => return none

mutual

/-- Follows all handles of a value. The records of a list are all read before the handles in any of
them are followed. -/
def Layout.resolve (a : Arena) : (l : Layout) → l.Stored → Except WireError l.Owned
  | .scalar _, x => .ok x
  | .text, (h : Handle) => a.text h
  | .packed t, (h : Handle) => do
    let v ← a.view t h
    return v.toList
  | .list item, (h : Handle) => do
    let xs ← (← a.records item h).mapM item.ofRecord
    xs.mapM (item.resolve a)
  | .option item, x =>
    match x with
    | some y => do return some (← item.resolve a y)
    | none => .ok none
  | .record _ fields, x => fields.resolve a x

def Fields.resolve (a : Arena) : (fs : Fields) → fs.Stored → Except WireError fs.Owned
  | .nil, _ => .ok ()
  | .cons _ layout rest, (x, xs) => do
    let y ← layout.resolve a x
    let ys ← rest.resolve a xs
    return (y, ys)

end

end SchemaWire

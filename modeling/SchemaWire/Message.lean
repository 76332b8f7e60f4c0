import SchemaWire.Layout.Borrowed
import SchemaWire.Layout.Stored
import SchemaWire.Wire.Frame

/-! Message types: records that travel alone or behind a frame header with their type id. -/
namespace SchemaWire

structure Message where
  name : String
  typeId : UInt16
  fields : Fields

namespace Message

def layout (m : Message) : Layout := .record m.name m.fields

abbrev Owned (m : Message) : Type := m.layout.Owned

variable (m : Message)

def encodedSize (x : m.Owned) : Nat := m.layout.size x

/-- The plain payload, written into a buffer of exactly its size. -/
def encode (x : m.Owned) : Bytes :=
  ((m.layout.encode x).finish (Buffer.blank (m.encodedSize x) 0)).contents

/-- Encodes into the caller's bytes and tells how many were written. Bytes that are too few are
left as they were. -/
def encodeInto (x : m.Owned) (out : Bytes) : Except WireError Nat × Bytes :=
  let needed := m.encodedSize x
  if out.length < needed then (.error (.bufferTooSmall needed out.length), out)
  else
    let filled := (m.layout.encode x).finish (Buffer.ofBytes (out.take needed))
    (.ok needed, filled.contents ++ out.drop needed)

/-- The payload behind a frame header. -/
def encodeMessage (x : m.Owned) : Bytes :=
  let size := m.encodedSize x
  let encoder : Encode Unit := do
    FrameHeader.encode ⟨Frame.version, m.typeId, UInt32.ofNat size⟩
    m.layout.encode x
  (encoder.finish (Buffer.blank (Frame.headerSize + size) 0)).contents

def decode (raw : Bytes) : Except WireError m.Owned := Decode.payload m.layout.decode raw

/-- Decodes a plain payload, leaving fixed-width arrays where they are. -/
def borrow (raw : Bytes) : Except WireError m.layout.Borrowed :=
  Decode.payload m.layout.borrow raw

def store (raw : Bytes) (arena : Arena) : Except WireError m.layout.Stored × Arena :=
  m.layout.storePayload raw arena

/-- Decodes a framed message that must carry this type's id. -/
def decodeMessage (raw : Bytes) : Except WireError m.Owned := do
  let (header, payload) ← FrameHeader.parse raw
  if header.typeId != m.typeId then throw (.typeIdMismatch m.typeId header.typeId)
  m.decode payload

end Message

structure AnyMessage where
  message : Message
  value : message.Owned

namespace AnyMessage

def typeId (a : AnyMessage) : UInt16 := a.message.typeId

def encodeMessage (a : AnyMessage) : Bytes := a.message.encodeMessage a.value

/-- The value as readable dumps show it, inside the name of its type. -/
def dump (a : AnyMessage) : String :=
  a.message.name ++ "(" ++ a.message.layout.dump Tier.owned a.value ++ ")"

/-- Decodes a framed message of any of the given types, by its type id. -/
def decode (messages : List Message) (raw : Bytes) : Except WireError AnyMessage := do
  let (header, payload) ← FrameHeader.parse raw
  match messages.find? (·.typeId == header.typeId) with
  | some m => return ⟨m, ← m.decode payload⟩
  | none => throw (.unknownTypeId header.typeId)

end AnyMessage
end SchemaWire

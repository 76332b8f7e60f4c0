import SchemaWire.Wire.Cursor
import SchemaWire.Wire.Buffer

/-!
Frames: a ten-byte header that tells the type and the length of the payload behind it. The header
is the magic `SDP`, a version byte, a 16-bit type id and a 32-bit payload length.
-/
namespace SchemaWire

structure FrameHeader where
  version : UInt8
  typeId : UInt16
  payloadLength : UInt32
deriving DecidableEq, Repr

namespace Frame

def magic : Bytes := [0x53, 0x44, 0x50]
def version : UInt8 := 0x32
def headerSize : Nat := 10

end Frame

namespace FrameHeader

/-- Reads a header, then the payload it announces. -/
def decode : Decode (FrameHeader × Bytes) := do
  let magic ← Decode.bytes 3
  if magic != Frame.magic then throw (.invalidMagic magic)
  let version ← Decode.scalar (.word .u8)
  let version := UInt8.ofBitVec version
  if version != Frame.version then throw (.unsupportedVersion version)
  let typeId ← Decode.scalar (.word .u16)
  let size ← Decode.scalar (.word .u32)
  Decode.ofExcept (checkSerializedSize size.toNat)
  let payload ← Decode.bytes size.toNat
  return (⟨version, UInt16.ofBitVec typeId, UInt32.ofBitVec size⟩, payload)

/-- Splits a framed message. Bytes past the announced payload are ignored. -/
def parse (raw : Bytes) : Except WireError (FrameHeader × Bytes) :=
  if !hasAtLeast Frame.headerSize raw then
    .error (.unexpectedEnd Frame.headerSize raw.length)
  else
    match decode (Cursor.ofBytes raw) with
    | .ok parsed _ => .ok parsed
    | .error e _ => .error e

/-- The ten header bytes. -/
def encode (h : FrameHeader) : Encode Unit := do
  Encode.bytes Frame.magic
  Encode.scalar (.word .u8) h.version.toBitVec
  Encode.scalar (.word .u16) h.typeId.toBitVec
  Encode.scalar (.word .u32) h.payloadLength.toBitVec

end FrameHeader

def Frame.encode (typeId : UInt16) (payload : Bytes) : Bytes :=
  let encoder : Encode Unit := do
    FrameHeader.encode ⟨Frame.version, typeId, UInt32.ofNat payload.length⟩
    Encode.bytes payload
  (encoder.finish (Buffer.blank (Frame.headerSize + payload.length) 0)).contents

end SchemaWire

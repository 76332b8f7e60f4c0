import SchemaWire.Proofs.Catalog.Dynamic
import SchemaWire.Proofs.Layout.Encoding
import SchemaWire.Proofs.Wire.Frame

/-!
The messages of the catalogue fill buffers of exactly their size, with the bytes that walking their
schema writes, and are decoded again from these. The size is known before anything is written, so
that a buffer of the caller's is written to only if the whole message fits.
-/
namespace SchemaWire

namespace Message

variable {m : Message} {x : m.Owned}

theorem encode_eq : m.encode x = m.layout.bytes x := by
  refine (m.layout.encode_writes x).finish ?_
  rw [List.length_replicate, m.layout.length_bytes]
  rfl

theorem encode_length : (m.encode x).length = m.encodedSize x := by
  rw [encode_eq, m.layout.length_bytes]
  rfl

theorem writes_encode : (m.layout.encode x).Writes (m.encode x) := by
  rw [encode_eq]
  exact m.layout.encode_writes x

/-- Header and payload are written one behind the other, as if the payload had been given as a
whole. -/
theorem writes_frame : Encode.Writes (do
    FrameHeader.encode ⟨Frame.version, m.typeId, UInt32.ofNat (m.encodedSize x)⟩
    m.layout.encode x) (Frame.encode m.typeId (m.encode x)) := by
  rw [Frame.encode_eq, Frame.header, encode_length]
  exact (FrameHeader.writes_encode _).bind writes_encode

theorem frame_length :
    (Frame.encode m.typeId (m.encode x)).length = Frame.headerSize + m.encodedSize x := by
  rw [Frame.encode_eq, List.length_append, FrameHeader.bytes_length, encode_length]

/-- A framed message is its payload behind a header with the type's id. -/
theorem encodeMessage_eq (x : m.Owned) : m.encodeMessage x = Frame.encode m.typeId (m.encode x) := by
  refine writes_frame.finish ?_
  rw [List.length_replicate, frame_length]

theorem encodeInto_of_lt {out : Bytes} (short : out.length < m.encodedSize x) :
    m.encodeInto x out = (.error (.bufferTooSmall (m.encodedSize x) out.length), out) :=
  if_pos short

theorem encodeInto_of_le {out : Bytes} (fits : m.encodedSize x ≤ out.length) :
    m.encodeInto x out = (.ok (m.encodedSize x), m.encode x ++ out.drop (m.encodedSize x)) := by
  have sized : (out.take (m.encodedSize x)).length = (m.encode x).length := by
    rw [List.length_take_of_le fits, encode_length]
  rw [encodeInto, if_neg (Nat.not_lt_of_le fits)]
  dsimp only
  rw [writes_encode.finish sized]

/-- Bytes of the caller's that are too few for a message are left as they were. Otherwise the first
of them become the encoded message, and those behind are left as they were. Neither this nor
framing ever runs out of room, since the size of a message is exact. -/
theorem encodeInto_atomic (m : Message) (x : m.Owned) (out : Bytes) :
    ((m.layout.encode x).Writes (m.encode x) ∧ (m.encode x).length = m.encodedSize x) ∧
    (out.length < m.encodedSize x →
      m.encodeInto x out = (.error (.bufferTooSmall (m.encodedSize x) out.length), out)) ∧
    (m.encodedSize x ≤ out.length →
      m.encodeInto x out = (.ok (m.encodedSize x), m.encode x ++ out.drop (m.encodedSize x))) ∧
    m.encodeMessage x = Frame.encode m.typeId (m.encode x) ∧
    Encode.Writes (do
      FrameHeader.encode ⟨Frame.version, m.typeId, UInt32.ofNat (m.encodedSize x)⟩
      m.layout.encode x) (m.encodeMessage x) ∧
    (m.encodeMessage x).length = Frame.headerSize + m.encodedSize x := by
  refine ⟨⟨writes_encode, encode_length⟩, encodeInto_of_lt, encodeInto_of_le, encodeMessage_eq x, ?_⟩
  rw [encodeMessage_eq]
  exact ⟨writes_frame, frame_length⟩

theorem decode_of_withinLimits (solid : m.layout.solid = true) (within : m.layout.WithinLimits x) :
    m.decode (m.encode x) = .ok x := by
  have small : (m.layout.bytes x).length ≤ maxSerializedSize := by
    rw [m.layout.length_bytes]
    exact within.size
  have short : m.layout.size x < 2 ^ 32 := Nat.lt_of_le_of_lt within.size (by decide)
  have run := (m.layout.decode_reads solid x short within.arrays).ofBytes within.total []
  rw [List.append_nil] at run
  rw [encode_eq]
  exact Decode.payload_of_ok small run

end Message

namespace Catalog

theorem messages_solid : ∀ m ∈ messages, m.layout.solid = true := by decide

/-- A message fills a buffer of exactly its size, whatever the buffer held, with the bytes that the
schema of the catalogue's document gives its dynamic form. Within the limits these are decoded as
the message. -/
theorem encode_agrees_with_schema {m : Message} (known : m ∈ messages) {s : Schema}
    (resolved : document.toSchema = .ok s) (x : m.Owned) :
    (∀ room : Bytes, room.length = m.encodedSize x →
      ∃ b, m.layout.encode x (.ofBytes room) = .ok () b ∧ b.remaining = 0 ∧
        b.contents = m.encode x) ∧
      Value.encode s (m.value x) = .ok (m.encode x) ∧
      (m.layout.WithinLimits x → m.decode (m.encode x) = .ok x) := by
  cases toSchema_document.symm.trans resolved
  refine ⟨?_, ?_, Message.decode_of_withinLimits (messages_solid m known)⟩
  · intro room sized
    rw [Message.encode_eq]
    exact (m.layout.encode_writes x).contents (sized.trans (m.layout.length_bytes x).symm)
  · obtain ⟨k, found, laid⟩ := structLayout_messages m known
    obtain ⟨v, shown, written⟩ := Value.shows_struct schema_wellFormed.field_names_nodup laid x
    obtain rfl : m.value x = v := Option.some.inj shown
    refine Value.encode_eq_ok.mpr ⟨k, ?_, Message.encode_eq ▸ written⟩
    rw [Message.value, Value.structIndex, found]

/-- An inventory with a NaN, a negative zero, empty and nested arrays. -/
def fullInventory : inventory.Owned :=
  ("Ada", some (0x7fc00001, 0x80000000, ()),
    [(7, "bolt", ["é", ""], [0x7ff8000000000001], ()), (8, "", [], [], ())],
    [[], [255]], [true, false], ())

theorem encode_agrees_with_schema_inventory :
    (∃ b, inventory.layout.encode fullInventory (.ofBytes (List.replicate 93 9)) = .ok () b ∧
      b.remaining = 0 ∧ b.contents = inventory.encode fullInventory) ∧
    Value.encode schema (inventory.value fullInventory) = .ok (inventory.encode fullInventory) ∧
    inventory.decode (inventory.encode fullInventory) = .ok fullInventory := by
  have known : inventory ∈ messages := by simp [messages]
  have within : inventory.layout.WithinLimits fullInventory :=
    ⟨by decide, by decide, by decide⟩
  obtain ⟨fills, walked, decoded⟩ :=
    encode_agrees_with_schema known toSchema_document fullInventory
  exact ⟨fills (List.replicate 93 9) (by decide), walked, decoded within⟩

theorem encodeInto_atomic_inventory :
    inventory.encodeInto fullInventory (List.replicate 92 9) =
      (.error (.bufferTooSmall 93 92), List.replicate 92 9) ∧
    inventory.encodeInto fullInventory (List.replicate 95 9) =
      (.ok 93, inventory.encode fullInventory ++ [9, 9]) ∧
    inventory.encodeMessage fullInventory =
      [0x53, 0x44, 0x50, 0x32, 4, 0, 93, 0, 0, 0] ++ inventory.encode fullInventory := by
  obtain ⟨-, refused, -, framed, -, -⟩ :=
    Message.encodeInto_atomic inventory fullInventory (List.replicate 92 9)
  obtain ⟨-, -, written, -, -, -⟩ :=
    Message.encodeInto_atomic inventory fullInventory (List.replicate 95 9)
  refine ⟨refused (by decide), written (by decide), framed.trans ?_⟩
  rw [Frame.encode_eq, Frame.header, Message.encode_length]
  rfl

end Catalog
end SchemaWire

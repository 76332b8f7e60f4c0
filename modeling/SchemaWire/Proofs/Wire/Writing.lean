import SchemaWire.Proofs.Wire.Reading
import SchemaWire.Wire.Buffer

/-!
What encoders write. `Writes e raw` says that `e` writes exactly the bytes `raw` wherever they fit,
`Refuses e error` that it stops with that error wherever there is room for what it writes before.
-/
namespace SchemaWire

/-- The buffer after some more bytes were written. -/
def Buffer.advance (b : Buffer) (raw : Bytes) : Buffer :=
  { written := b.written ++ raw, room := b.room.drop raw.length }

namespace Buffer

@[simp] theorem advance_nil (b : Buffer) : b.advance [] = b := by
  simp only [advance, Array.appendList_nil, List.length_nil, List.drop_zero]

theorem advance_advance (b : Buffer) (raw raw' : Bytes) :
    (b.advance raw).advance raw' = b.advance (raw ++ raw') := by
  have joined : b.written ++ raw ++ raw' = b.written ++ (raw ++ raw') := by
    apply Array.ext'
    simp only [Array.toList_appendList, List.append_assoc]
  simp only [advance, joined, List.drop_drop, List.length_append]

@[simp] theorem advance_room_length (b : Buffer) (raw : Bytes) :
    (b.advance raw).room.length = b.room.length - raw.length :=
  List.length_drop

theorem contents_advance_ofBytes (room raw : Bytes) :
    ((ofBytes room).advance raw).contents = raw ++ room.drop raw.length := by
  simp [ofBytes, advance, contents]

theorem index_advance (b : Buffer) (raw : Bytes) : (b.advance raw).index = b.index + raw.length := by
  rw [index, advance, ← Array.length_toList, Array.toList_appendList, List.length_append]
  rfl

/-- Only the bytes behind the cursor that are written over change. -/
theorem contents_advance (b : Buffer) (raw : Bytes) :
    (b.advance raw).contents =
      b.contents.take b.index ++ raw ++ b.contents.drop (b.index + raw.length) := by
  have before : b.contents.take b.index = b.written.toList := List.take_left
  have behind : b.contents.drop (b.index + raw.length) = b.room.drop raw.length :=
    List.drop_length_add_append raw.length
  rw [before, behind]
  simp [advance, contents]

end Buffer

namespace Encode

/-- The encoder writes the bytes `raw` and succeeds, on every buffer with room for them. -/
def Writes (e : Encode Unit) (raw : Bytes) : Prop :=
  ∀ ⦃b : Buffer⦄, raw.length ≤ b.room.length → e b = .ok () (b.advance raw)

theorem writes_nothing : Writes (pure ()) [] := by
  intro b _
  rw [b.advance_nil]
  rfl

theorem Writes.bind {e : Encode Unit} {f : Unit → Encode Unit} {raw raw' : Bytes} (h : Writes e raw)
    (h' : Writes (f ()) raw') : Writes (e >>= f) (raw ++ raw') := by
  intro b fits
  rw [List.length_append] at fits
  have first : raw.length ≤ b.room.length := by omega
  have second : raw'.length ≤ (b.advance raw).room.length := by
    rw [b.advance_room_length]
    omega
  rw [bind_of_ok (h first), h' second, b.advance_advance]

theorem writes_bytes (raw : Bytes) : Writes (bytes raw) raw := by
  intro b fits
  exact if_pos ((hasAtLeast_iff raw.length b.room).mpr fits)

theorem writes_scalar (t : ScalarType) (x : t.Carrier) : Writes (scalar t x) (t.toBytes x) :=
  writes_bytes (t.toBytes x)

theorem writes_length (n : Nat) : Writes (length n) (littleEndian 4 n) :=
  writes_bytes (littleEndian 4 n)

theorem writes_text (s : String) : Writes (text s) (textBytes s) :=
  (writes_length _).bind (writes_bytes _)

/-- The encoder writes some bytes and refuses to go on, on every buffer with room for these. -/
def Refuses (e : Encode Unit) (error : WireError) : Prop :=
  ∃ raw : Bytes, ∀ ⦃b : Buffer⦄, raw.length ≤ b.room.length →
    e b = .error (.rejected error) (b.advance raw)

theorem refuses_reject (error : WireError) : Refuses (reject error) error := by
  refine ⟨[], fun b _ => ?_⟩
  rw [b.advance_nil]
  rfl

theorem Refuses.bind {e : Encode Unit} {error : WireError} (h : Refuses e error)
    (f : Unit → Encode Unit) : Refuses (e >>= f) error := by
  obtain ⟨raw, stops⟩ := h
  exact ⟨raw, fun b fits => bind_of_error (stops fits)⟩

theorem Writes.bind_refuses {e : Encode Unit} {f : Unit → Encode Unit} {raw : Bytes}
    {error : WireError} (h : Writes e raw) (h' : Refuses (f ()) error) :
    Refuses (e >>= f) error := by
  obtain ⟨raw', stops⟩ := h'
  refine ⟨raw ++ raw', fun b fits => ?_⟩
  rw [List.length_append] at fits
  have first : raw.length ≤ b.room.length := by omega
  have second : raw'.length ≤ (b.advance raw).room.length := by
    rw [b.advance_room_length]
    omega
  rw [bind_of_ok (h first), stops second, b.advance_advance]

/-- The encoder writes the given bytes, or refuses with the given error. -/
def Performs (e : Encode Unit) : Except WireError Bytes → Prop
  | .ok raw => e.Writes raw
  | .error error => e.Refuses error

theorem Performs.bind {e : Encode Unit} {f : Unit → Encode Unit} {x y : Except WireError Bytes}
    (h : Performs e x) (h' : Performs (f ()) y) :
    Performs (e >>= f) (do
      let head ← x
      return head ++ (← y)) := by
  cases x with
  | error error => exact Refuses.bind h f
  | ok head =>
      cases y with
      | error error => exact Writes.bind_refuses h h'
      | ok tail => exact Writes.bind h h'

/-- A buffer of just the right size is full and holds what was written. -/
theorem Writes.contents {e : Encode Unit} {raw : Bytes} (h : Writes e raw) {room : Bytes}
    (exact : room.length = raw.length) :
    ∃ b, e (Buffer.ofBytes room) = .ok () b ∧ b.remaining = 0 ∧ b.contents = raw := by
  refine ⟨_, h (Nat.le_of_eq exact.symm), ?_, ?_⟩
  · rw [Buffer.remaining, Buffer.advance_room_length, Buffer.ofBytes, exact, Nat.sub_self]
  · rw [Buffer.contents_advance_ofBytes, ← exact, List.drop_length, List.append_nil]

theorem Writes.finish {e : Encode Unit} {raw : Bytes} (h : Writes e raw) {room : Bytes}
    (exact : room.length = raw.length) : (e.finish (Buffer.ofBytes room)).contents = raw := by
  obtain ⟨b, written, -, contents⟩ := h.contents exact
  rw [Encode.finish, written]
  exact contents

end Encode
end SchemaWire

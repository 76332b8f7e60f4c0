import SchemaWire.Proofs.Wire.Writing
import SchemaWire.Wire.Frame

/-!
Frames are read back as they were written: the header, the payload behind it, and nothing of what
follows. Nothing else is read as a frame: the checks that a frame passes leave only bytes that were
written so, and of several faults the first in the order of the checks is reported.
-/
namespace SchemaWire

open Decode (Reads reads_bytes reads_scalar)

namespace Decode

/-- A word is read off any bytes of its width. -/
theorem reads_word (w : WordType) {raw : Bytes} (sized : raw.length = w.size) :
    Reads (scalar (.word w)) raw 0 (ScalarType.ofBytes (.word w) raw) :=
  (reads_scalar (.word w) _).cast (ScalarType.toBytes_ofBytes (.word w) sized rfl) rfl rfl

theorem Reads.bind_apply {α β : Type} {d : Decode α} {raw : Bytes} {a : α} (h : Reads d raw 0 a)
    (f : α → Decode β) (rest : Bytes) (index : Nat) :
    (d >>= f) ⟨raw ++ rest, index, 0⟩ = f a ⟨rest, index + raw.length, 0⟩ :=
  bind_of_ok (h ⟨rfl, rfl, rfl⟩ (Nat.zero_le _))

end Decode

namespace FrameHeader

def bytes (h : FrameHeader) : Bytes :=
  Frame.magic ++ (ScalarType.toBytes (.word .u8) h.version.toBitVec ++
    (ScalarType.toBytes (.word .u16) h.typeId.toBitVec ++
      ScalarType.toBytes (.word .u32) h.payloadLength.toBitVec))

@[simp] theorem bytes_length (h : FrameHeader) : h.bytes.length = Frame.headerSize := by
  simp only [bytes, List.length_append]
  rfl

theorem writes_encode (h : FrameHeader) : h.encode.Writes h.bytes :=
  (Encode.writes_bytes _).bind ((Encode.writes_scalar _ _).bind
    ((Encode.writes_scalar _ _).bind (Encode.writes_scalar _ _)))

/-- A payload is read if it is as long as announced and not too long. -/
theorem reads_payload {α : Type} (f : Bytes → α) {n : Nat} {payload : Bytes}
    (announced : n = payload.length) (small : payload.length ≤ maxSerializedSize) :
    Reads (do
      Decode.ofExcept (checkSerializedSize n)
      let raw ← Decode.bytes n
      return f raw) payload 0 (f payload) := by
  have accepted : checkSerializedSize n = .ok () := if_neg (Nat.not_lt_of_le (announced ▸ small))
  rw [accepted, announced]
  exact (reads_bytes payload).map f

/-- A header of the known version is read together with a payload of the length it announces. -/
theorem reads_decode {h : FrameHeader} {payload : Bytes} (known : h.version = Frame.version)
    (announced : h.payloadLength.toNat = payload.length)
    (small : payload.length ≤ maxSerializedSize) :
    decode.Reads (h.bytes ++ payload) 0 (h, payload) := by
  obtain ⟨version, typeId, size⟩ := h
  cases known
  rw [bytes, List.append_assoc, List.append_assoc, List.append_assoc]
  refine Reads.cast (k := 0 + 0) ((reads_bytes Frame.magic).bind ?_) rfl rfl rfl
  refine Reads.cast (k := 0 + 0)
    ((reads_scalar (.word .u8) Frame.version.toBitVec).bind ?_) rfl rfl rfl
  refine Reads.cast (k := 0 + 0) ((reads_scalar (.word .u16) typeId.toBitVec).bind ?_) rfl rfl rfl
  refine Reads.cast (k := 0 + 0) ((reads_scalar (.word .u32) size.toBitVec).bind ?_) rfl rfl rfl
  exact reads_payload (fun raw => ((⟨Frame.version, typeId, size⟩ : FrameHeader), raw)) announced
    small

section Faults

variable {mark id size rest : Bytes} {edition : UInt8}

theorem decode_of_magic (sized : mark.length = 3) (wrong : mark ≠ Frame.magic) :
    decode (.ofBytes (mark ++ rest)) = .error (.invalidMagic mark) ⟨rest, 3, 0⟩ := by
  have reads : Reads (Decode.bytes 3) mark 0 mark := sized ▸ reads_bytes mark
  have differs : (mark != Frame.magic) = true := bne_iff_ne.mpr wrong
  rw [decode, Cursor.ofBytes, reads.bind_apply, if_pos differs, Nat.zero_add, sized]
  rfl

theorem decode_of_version (wrong : edition ≠ Frame.version) :
    decode (.ofBytes (Frame.magic ++ ([edition] ++ rest))) =
      .error (.unsupportedVersion edition) ⟨rest, 4, 0⟩ := by
  have magic : Reads (Decode.bytes 3) Frame.magic 0 Frame.magic := reads_bytes Frame.magic
  have byte : Reads (Decode.scalar (.word .u8)) [edition] 0 edition.toBitVec := by
    refine (reads_scalar (.word .u8) edition.toBitVec).cast ?_ rfl rfl
    exact congrArg (fun b => [b]) UInt8.ofNat_toNat
  have differs : (edition != Frame.version) = true := bne_iff_ne.mpr wrong
  rw [decode, Cursor.ofBytes, magic.bind_apply]
  change (Decode.scalar (.word .u8) >>= _) _ = _
  rw [byte.bind_apply]
  exact congrFun (if_pos differs) _

/-- Behind the right magic and version stand the type id, the length and the payload. -/
theorem decode_of_known (idLength : id.length = 2) (sizeLength : size.length = 4) :
    decode (.ofBytes (Frame.magic ++ ([Frame.version] ++ (id ++ (size ++ rest))))) = (do
      Decode.ofExcept (checkSerializedSize (ofLittleEndian size))
      let payload ← Decode.bytes (ofLittleEndian size)
      return (⟨Frame.version, .ofBitVec (ScalarType.ofBytes (.word .u16) id),
        .ofBitVec (ScalarType.ofBytes (.word .u32) size)⟩, payload) : Decode (FrameHeader × Bytes))
      ⟨rest, Frame.headerSize, 0⟩ := by
  have magic : Reads (Decode.bytes 3) Frame.magic 0 Frame.magic := reads_bytes Frame.magic
  have version : Reads (Decode.scalar (.word .u8)) [Frame.version] 0 Frame.version.toBitVec :=
    reads_scalar (.word .u8) Frame.version.toBitVec
  have announced : (ScalarType.ofBytes (.word .u32) size).toNat = ofLittleEndian size := by
    have small := ofLittleEndian_lt size
    rw [sizeLength] at small
    exact Nat.mod_eq_of_lt small
  rw [decode, Cursor.ofBytes, magic.bind_apply]
  change (Decode.scalar (.word .u8) >>= _) _ = _
  rw [version.bind_apply]
  change (Decode.scalar (.word .u16) >>= _) _ = _
  rw [(Decode.reads_word .u16 idLength).bind_apply, (Decode.reads_word .u32 sizeLength).bind_apply,
    announced, idLength, sizeLength]
  rfl

theorem decode_of_large (idLength : id.length = 2) (sizeLength : size.length = 4)
    (large : maxSerializedSize < ofLittleEndian size) :
    decode (.ofBytes (Frame.magic ++ ([Frame.version] ++ (id ++ (size ++ rest))))) =
      .error (.dataTooLarge (ofLittleEndian size)) ⟨rest, Frame.headerSize, 0⟩ := by
  have refused : checkSerializedSize (ofLittleEndian size) =
      .error (.dataTooLarge (ofLittleEndian size)) := if_pos large
  rw [decode_of_known idLength sizeLength, refused]
  rfl

theorem decode_of_short (idLength : id.length = 2) (sizeLength : size.length = 4)
    (small : ofLittleEndian size ≤ maxSerializedSize) (short : rest.length < ofLittleEndian size) :
    decode (.ofBytes (Frame.magic ++ ([Frame.version] ++ (id ++ (size ++ rest))))) =
      .error (.unexpectedEnd (Frame.headerSize + ofLittleEndian size)
        (Frame.headerSize + rest.length)) ⟨rest, Frame.headerSize, 0⟩ := by
  have accepted : checkSerializedSize (ofLittleEndian size) = .ok () :=
    if_neg (Nat.not_lt_of_le small)
  have near : position (Frame.headerSize + ofLittleEndian size) =
      Frame.headerSize + ofLittleEndian size := by
    apply Nat.min_eq_left
    simp only [Frame.headerSize, maxPosition, maxSerializedSize] at small ⊢
    omega
  have failed := Decode.bytes_of_lt (c := ⟨rest, Frame.headerSize, 0⟩) short
  rw [near] at failed
  rw [decode_of_known idLength sizeLength, accepted]
  change (Decode.bytes _ >>= _) _ = _
  rw [bind_of_error failed]
  rfl

end Faults

end FrameHeader

namespace Frame

def header (typeId : UInt16) (payload : Bytes) : FrameHeader :=
  ⟨version, typeId, UInt32.ofNat payload.length⟩

theorem encode_eq (typeId : UInt16) (payload : Bytes) :
    encode typeId payload = (header typeId payload).bytes ++ payload := by
  have writes : Encode.Writes (do
      FrameHeader.encode (header typeId payload)
      Encode.bytes payload) ((header typeId payload).bytes ++ payload) :=
    (header typeId payload).writes_encode.bind (Encode.writes_bytes payload)
  have exact : (List.replicate (headerSize + payload.length) (0 : UInt8)).length =
      ((header typeId payload).bytes ++ payload).length := by
    rw [List.length_replicate, List.length_append, FrameHeader.bytes_length]
  exact writes.finish exact

theorem header_payloadLength (typeId : UInt16) {payload : Bytes}
    (small : payload.length ≤ maxSerializedSize) :
    (header typeId payload).payloadLength.toNat = payload.length :=
  UInt32.toNat_ofNat_of_lt' (Nat.lt_of_le_of_lt small (by decide))

/-- Bytes behind a frame do not matter to the frame. -/
theorem parse_encode (typeId : UInt16) {payload : Bytes}
    (small : payload.length ≤ maxSerializedSize) (rest : Bytes) :
    FrameHeader.parse (encode typeId payload ++ rest) = .ok (header typeId payload, payload) := by
  have announced := header_payloadLength typeId small
  have reads := FrameHeader.reads_decode (h := header typeId payload) rfl announced small
  have run := reads.ofBytes (Nat.zero_le _) rest
  have enough : hasAtLeast headerSize (encode typeId payload ++ rest) = true := by
    rw [hasAtLeast_iff, encode_eq, List.length_append, List.length_append,
      FrameHeader.bytes_length]
    omega
  rw [FrameHeader.parse, enough]
  simp only [encode_eq, run, Bool.not_true, Bool.false_eq_true, if_false]

/-- The payload length that a frame announces. -/
def announced (raw : Bytes) : Nat := ofLittleEndian ((raw.drop 6).take 4)

/-- What each check finds wrong with a frame, in the order of the checks. -/
def checks (raw : Bytes) : List (Option WireError) := [
  if raw.length < headerSize then some (.unexpectedEnd headerSize raw.length) else none,
  if raw.take 3 = magic then none else some (.invalidMagic (raw.take 3)),
  if raw.getD 3 0 = version then none else some (.unsupportedVersion (raw.getD 3 0)),
  if maxSerializedSize < announced raw then some (.dataTooLarge (announced raw)) else none,
  if raw.length < headerSize + announced raw then
    some (.unexpectedEnd (headerSize + announced raw) raw.length)
  else none]

/-- The first thing wrong with a frame. -/
def fault? (raw : Bytes) : Option WireError := (checks raw).findSome? id

/-- A frame with a whole header, cut into the fields of the header and what follows. -/
structure Parts (raw mark : Bytes) (edition : UInt8) (id size rest : Bytes) : Prop where
  whole : raw = mark ++ ([edition] ++ (id ++ (size ++ rest)))
  mark_length : mark.length = 3
  id_length : id.length = 2
  size_length : size.length = 4

theorem exists_parts {raw : Bytes} (long : headerSize ≤ raw.length) :
    ∃ mark edition id size rest, Parts raw mark edition id size rest := by
  change 10 ≤ raw.length at long
  have cut (n k : Nat) : (raw.drop n).take k ++ raw.drop (n + k) = raw.drop n := by
    rw [← List.drop_drop, List.take_append_drop]
  have single : ((raw.drop 3).take 1).length = 1 := by
    rw [List.length_take, List.length_drop]
    omega
  obtain ⟨edition, only⟩ := List.length_eq_one_iff.mp single
  refine ⟨raw.take 3, edition, (raw.drop 4).take 2, (raw.drop 6).take 4, raw.drop 10,
    ?_, ?_, ?_, ?_⟩
  · rw [cut 6 4, cut 4 2, ← only, cut 3 1, List.take_append_drop]
  · rw [List.length_take]
    omega
  · rw [List.length_take, List.length_drop]
    omega
  · rw [List.length_take, List.length_drop]
    omega

namespace Parts

variable {raw mark id size rest : Bytes} {edition : UInt8}
  (parts : Parts raw mark edition id size rest)
include parts

theorem take_three : raw.take 3 = mark := by
  rw [parts.whole, List.take_left' parts.mark_length]

theorem getElem?_three : raw[3]? = some edition := by
  rw [parts.whole, List.getElem?_append_right (Nat.le_of_eq parts.mark_length), parts.mark_length]
  rfl

theorem announced_eq : announced raw = ofLittleEndian size := by
  have ahead : (mark ++ ([edition] ++ id)).length = 6 := by
    rw [List.length_append, List.length_append, parts.mark_length, parts.id_length]
    rfl
  have whole : raw = mark ++ ([edition] ++ id) ++ (size ++ rest) := by
    rw [parts.whole]
    simp only [List.append_assoc]
  rw [announced, whole, List.drop_left' ahead, List.take_left' parts.size_length]

theorem length_eq : raw.length = headerSize + rest.length := by
  rw [parts.whole]
  simp only [List.length_append, parts.mark_length, parts.id_length, parts.size_length,
    List.length_singleton, headerSize]
  omega

theorem parse_of_error {e : WireError} {c : Cursor} (failed : FrameHeader.decode
      (.ofBytes (mark ++ ([edition] ++ (id ++ (size ++ rest))))) = .error e c) :
    FrameHeader.parse raw = .error e := by
  have long : headerSize ≤ raw.length := by
    rw [parts.length_eq]
    exact Nat.le_add_right ..
  rw [FrameHeader.parse, (hasAtLeast_iff _ _).mpr long, parts.whole, failed]
  rfl

/-- With the right magic and version, and a payload that is all there, the bytes were written as a
frame. -/
theorem exists_encode (known : mark = magic) (current : edition = version)
    (small : ofLittleEndian size ≤ maxSerializedSize) (long : ofLittleEndian size ≤ rest.length) :
    ∃ typeId payload tail, payload.length ≤ maxSerializedSize ∧
      raw = encode typeId payload ++ tail := by
  have sized : (rest.take (ofLittleEndian size)).length = ofLittleEndian size :=
    List.length_take_of_le long
  have word : (UInt32.ofNat (ofLittleEndian size)).toNat = ofLittleEndian size :=
    UInt32.toNat_ofNat_of_lt' (Nat.lt_of_le_of_lt small (by decide))
  have idBytes : ScalarType.toBytes (.word .u16) (ScalarType.ofBytes (.word .u16) id) = id :=
    ScalarType.toBytes_ofBytes (.word .u16) parts.id_length rfl
  have sizeBytes :
      ScalarType.toBytes (.word .u32) (UInt32.ofNat (ofLittleEndian size)).toBitVec = size := by
    change littleEndian 4 (UInt32.ofNat (ofLittleEndian size)).toNat = size
    rw [word, ← parts.size_length, littleEndian_ofLittleEndian]
  refine ⟨.ofBitVec (ScalarType.ofBytes (.word .u16) id), rest.take (ofLittleEndian size),
    rest.drop (ofLittleEndian size), sized.trans_le small, ?_⟩
  rw [parts.whole, known, current, encode_eq, header, FrameHeader.bytes, sized, sizeBytes, idBytes]
  simp only [List.append_assoc, List.take_append_drop]
  rfl

end Parts

/-- A frame is refused for the first thing wrong with it, or was written as a frame. -/
theorem parse_cases (raw : Bytes) :
    (∃ e, fault? raw = some e ∧ FrameHeader.parse raw = .error e) ∨
      fault? raw = none ∧ ∃ typeId payload rest, payload.length ≤ maxSerializedSize ∧
        raw = encode typeId payload ++ rest := by
  by_cases short : raw.length < headerSize
  · have few : hasAtLeast headerSize raw = false := by
      rw [Bool.eq_false_iff, Ne, hasAtLeast_iff]
      exact Nat.not_le_of_lt short
    refine .inl ⟨.unexpectedEnd headerSize raw.length, by simp [fault?, checks, short], ?_⟩
    rw [FrameHeader.parse, few]
    rfl
  · obtain ⟨mark, edition, id, size, rest, parts⟩ := exists_parts (Nat.le_of_not_lt short)
    have front := parts.take_three
    have fourth := parts.getElem?_three
    have length := parts.announced_eq
    by_cases known : mark = magic
    · subst known
      by_cases current : edition = version
      · subst current
        by_cases large : maxSerializedSize < ofLittleEndian size
        · refine .inl ⟨.dataTooLarge (ofLittleEndian size), ?_, ?_⟩
          · simp [fault?, checks, short, front, fourth, length, large]
          · exact parts.parse_of_error
              (FrameHeader.decode_of_large parts.id_length parts.size_length large)
        · have small := Nat.le_of_not_lt large
          by_cases cut : rest.length < ofLittleEndian size
          · refine .inl ⟨.unexpectedEnd (headerSize + ofLittleEndian size) raw.length, ?_, ?_⟩
            · simp [fault?, checks, front, fourth, length, large, parts.length_eq, cut]
            · rw [parts.length_eq]
              exact parts.parse_of_error
                (FrameHeader.decode_of_short parts.id_length parts.size_length small cut)
          · refine .inr ⟨?_, parts.exists_encode rfl rfl small (Nat.le_of_not_lt cut)⟩
            simp [fault?, checks, front, fourth, length, large, parts.length_eq, cut]
      · refine .inl ⟨.unsupportedVersion edition, ?_, ?_⟩
        · simp [fault?, checks, short, front, fourth, current]
        · exact parts.parse_of_error (FrameHeader.decode_of_version current)
    · refine .inl ⟨.invalidMagic mark, ?_, ?_⟩
      · simp [fault?, checks, short, front, known]
      · exact parts.parse_of_error (FrameHeader.decode_of_magic parts.mark_length known)

/-- Reading undoes writing whatever follows the frame, and writing undoes reading. Where neither
applies, the error is the first thing wrong with the bytes. -/
theorem parse_inverts_encode :
    (∀ (typeId : UInt16) (payload rest : Bytes), payload.length ≤ maxSerializedSize →
      ∃ h, FrameHeader.parse (encode typeId payload ++ rest) = .ok (h, payload) ∧
        h.version = 0x32 ∧ h.typeId = typeId ∧ h.payloadLength.toNat = payload.length) ∧
    (∀ (raw payload : Bytes) (h : FrameHeader), FrameHeader.parse raw = .ok (h, payload) →
      (∃ rest, raw = encode h.typeId payload ++ rest) ∧ h.version = 0x32 ∧
        h.payloadLength.toNat = payload.length) ∧
    ∀ (raw : Bytes) (e : WireError), FrameHeader.parse raw = .error e ↔ fault? raw = some e := by
  refine ⟨?_, ?_, ?_⟩
  · intro typeId payload rest small
    exact ⟨header typeId payload, parse_encode typeId small rest, rfl, rfl,
      header_payloadLength typeId small⟩
  · intro raw payload h parsed
    rcases parse_cases raw with ⟨e, -, failed⟩ | ⟨-, typeId, written, rest, small, rfl⟩
    · rw [failed] at parsed
      cases parsed
    · rw [parse_encode typeId small rest] at parsed
      cases parsed
      exact ⟨⟨rest, rfl⟩, rfl, header_payloadLength typeId small⟩
  · intro raw e
    rcases parse_cases raw with ⟨e', fault, failed⟩ | ⟨fault, typeId, payload, rest, small, rfl⟩
    · rw [fault, failed, Except.error.injEq, Option.some.injEq]
    · rw [fault, parse_encode typeId small rest]
      constructor
      · intro h
        cases h
      · intro h
        cases h

/-- Magic, version and length are all wrong, and the payload is missing. -/
example : FrameHeader.parse [0x58, 0x44, 0x50, 0x39, 1, 0, 0, 0, 0, 0xFF] =
    .error (.invalidMagic [0x58, 0x44, 0x50]) := rfl

end Frame
end SchemaWire

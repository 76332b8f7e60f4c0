import SchemaWire.Catalog
import SchemaWire.Proofs.Wire.Writing

/-!
Records. Every value of a layout has a record of the layout's size, and reading the record gives
the value back, wherever it stands, if its handles fit into the words they are written as.
-/
namespace SchemaWire

open Decode (Reads reads_scalar reads_bytes)

def Handle.Fits (h : Handle) : Prop := h.offset < 2 ^ 64 ∧ h.length < 2 ^ 64

mutual

def Layout.Fits : (l : Layout) → l.Stored → Prop
  | .scalar _, _ => True
  | .text, (h : Handle) => h.Fits
  | .packed _, (h : Handle) => h.Fits
  | .list _, (h : Handle) => h.Fits
  | .option item, x =>
    match x with
    | some y => item.Fits y
    | none => True
  | .record _ fields, x => fields.Fits x

def Fields.Fits : (fs : Fields) → fs.Stored → Prop
  | .nil, _ => True
  | .cons _ layout rest, (x, xs) => layout.Fits x ∧ rest.Fits xs

end

/-- The bytes are a record of `size` bytes that is written for a value and, if that fits, read as
the value. -/
structure IsRecord {α : Type} (write : Encode Unit) (read : Decode α) (size : Nat) (x : α)
    (fits : Prop) (raw : Bytes) : Prop where
  writes : write.Writes raw
  sized : raw.length = size
  reads : fits → read.Reads raw 0 x

theorem isRecord_scalar (t : ScalarType) (x : t.Carrier) :
    IsRecord (Encode.scalar t x) (Decode.scalar t) t.size x True (t.toBytes x) where
  writes := Encode.writes_scalar t x
  sized := t.toBytes_length x
  reads _ := reads_scalar t x

theorem Handle.reads_word {n : Nat} (small : n < 2 ^ 64) :
    (Decode.scalar (.word .u64)).Reads (littleEndian 8 n) 0 (BitVec.ofNat 64 n) := by
  have exact : (BitVec.ofNat 64 n).toNat = n := by
    rw [BitVec.toNat_ofNat, Nat.mod_eq_of_lt small]
  have word : ScalarType.toBytes (.word .u64) (BitVec.ofNat 64 n) = littleEndian 8 n :=
    congrArg (littleEndian 8) exact
  exact (reads_scalar (.word .u64) (BitVec.ofNat 64 n)).cast word rfl rfl

theorem Handle.isRecord (h : Handle) :
    IsRecord h.writeRecord Handle.readRecord Handle.recordSize h h.Fits
      (littleEndian 8 h.offset ++ (littleEndian 8 h.length ++
        ScalarType.toBytes (.word .u32) h.generation.toBitVec)) where
  writes := by
    refine (Encode.writes_bytes _).bind ((Encode.writes_bytes _).bind ?_)
    exact Encode.writes_scalar (.word .u32) h.generation.toBitVec
  sized := by
    have word : (ScalarType.toBytes (.word .u32) h.generation.toBitVec).length = 4 :=
      littleEndian_length _ _
    simp only [List.length_append, littleEndian_length, word, Handle.recordSize]
  reads := by
    rintro ⟨offset, length⟩
    have last := (reads_scalar (.word .u32) h.generation.toBitVec).map fun g =>
      (⟨(BitVec.ofNat 64 h.offset).toNat, (BitVec.ofNat 64 h.length).toNat, UInt32.ofBitVec g⟩ :
        Handle)
    have same : (⟨(BitVec.ofNat 64 h.offset).toNat, (BitVec.ofNat 64 h.length).toNat,
        UInt32.ofBitVec h.generation.toBitVec⟩ : Handle) = h := by
      rw [BitVec.toNat_ofNat, BitVec.toNat_ofNat, Nat.mod_eq_of_lt offset, Nat.mod_eq_of_lt length]
    exact ((Handle.reads_word offset).bind ((Handle.reads_word length).bind last)).cast rfl rfl same

theorem isRecord_none (item : Layout) :
    IsRecord (Layout.writeRecord (.option item) none) (Layout.readRecord (.option item))
      (1 + item.recordSize) none True
      (ScalarType.toBytes .bool false ++ List.replicate item.recordSize 0) where
  writes := (Encode.writes_scalar .bool false).bind (Encode.writes_bytes _)
  sized := by
    rw [List.length_append, List.length_replicate]
    rfl
  reads _ := by
    have padding := reads_bytes (List.replicate item.recordSize (0 : UInt8))
    rw [List.length_replicate] at padding
    rw [Layout.readRecord]
    refine Reads.cast (k := 0 + 0) ((reads_scalar .bool false).bind ?_) rfl rfl rfl
    exact padding.map fun _ => none

theorem isRecord_some {item : Layout} {y : item.Stored} {raw : Bytes}
    (h : IsRecord (item.writeRecord y) item.readRecord item.recordSize y (item.Fits y) raw) :
    IsRecord (Layout.writeRecord (.option item) (some y)) (Layout.readRecord (.option item))
      (1 + item.recordSize) (some y) (item.Fits y) (ScalarType.toBytes .bool true ++ raw) where
  writes := (Encode.writes_scalar .bool true).bind h.writes
  sized := by
    rw [List.length_append, h.sized]
    rfl
  reads fits := by
    rw [Layout.readRecord]
    refine Reads.cast (k := 0 + 0) ((reads_scalar .bool true).bind ?_) rfl rfl rfl
    exact (h.reads fits).map some

theorem isRecord_cons {name : String} {layout : Layout} {rest : Fields} {x : layout.Stored}
    {xs : rest.Stored} {raw raws : Bytes}
    (head :
      IsRecord (layout.writeRecord x) layout.readRecord layout.recordSize x (layout.Fits x) raw)
    (tail : IsRecord (rest.writeRecord xs) rest.readRecord rest.recordSize xs (rest.Fits xs) raws) :
    IsRecord (Fields.writeRecord (.cons name layout rest) (x, xs))
      (Fields.readRecord (.cons name layout rest)) (layout.recordSize + rest.recordSize) (x, xs)
      (layout.Fits x ∧ rest.Fits xs) (raw ++ raws) where
  writes := head.writes.bind tail.writes
  sized := by rw [List.length_append, head.sized, tail.sized]
  reads fits := by
    rw [Fields.readRecord]
    refine Reads.cast (k := 0 + 0) ((head.reads fits.1).bind ?_) rfl rfl rfl
    exact (tail.reads fits.2).map fun xs => (x, xs)

mutual

theorem Layout.exists_isRecord : (l : Layout) → (x : l.Stored) →
    ∃ raw, IsRecord (l.writeRecord x) l.readRecord l.recordSize x (l.Fits x) raw
  | .scalar t, x => ⟨_, isRecord_scalar t x⟩
  | .text, h => ⟨_, Handle.isRecord h⟩
  | .packed _, h => ⟨_, Handle.isRecord h⟩
  | .list _, h => ⟨_, Handle.isRecord h⟩
  | .option item, none => ⟨_, isRecord_none item⟩
  | .option item, some y =>
      let ⟨_, record⟩ := item.exists_isRecord y
      ⟨_, isRecord_some record⟩
  | .record _ fields, x => fields.exists_isRecord x

theorem Fields.exists_isRecord : (fs : Fields) → (x : fs.Stored) →
    ∃ raw, IsRecord (fs.writeRecord x) fs.readRecord fs.recordSize x (fs.Fits x) raw
  | .nil, () => ⟨[], ⟨Encode.writes_nothing, rfl, fun _ => Reads.pure ()⟩⟩
  | .cons _ layout rest, (x, xs) =>
      let ⟨_, head⟩ := layout.exists_isRecord x
      let ⟨_, tail⟩ := rest.exists_isRecord xs
      ⟨_, isRecord_cons head tail⟩

end

namespace Layout

theorem isRecord_recordBytes (l : Layout) (x : l.Stored) :
    IsRecord (l.writeRecord x) l.readRecord l.recordSize x (l.Fits x) (l.recordBytes x) := by
  obtain ⟨raw, record⟩ := l.exists_isRecord x
  have exact : (List.replicate l.recordSize (0 : UInt8)).length = raw.length := by
    rw [List.length_replicate, record.sized]
  obtain ⟨b, written, -, contents⟩ := record.writes.contents exact
  have same : l.recordBytes x = raw := by
    rw [recordBytes, Encode.finish, Buffer.blank, written]
    exact contents
  rw [same]
  exact record

@[simp] theorem recordBytes_length (l : Layout) (x : l.Stored) :
    (l.recordBytes x).length = l.recordSize :=
  (l.isRecord_recordBytes x).sized

theorem ofRecord_recordBytes {l : Layout} {x : l.Stored} (fits : l.Fits x) :
    l.ofRecord (l.recordBytes x) = .ok x := by
  have adv : Cursor.Advance (l.recordBytes x) 0 (Cursor.ofBytes (l.recordBytes x))
      ⟨[], (l.recordBytes x).length, 0⟩ :=
    ⟨(List.append_nil _).symm, (Nat.zero_add _).symm, rfl⟩
  have run := (l.isRecord_recordBytes x).reads fits adv (Nat.zero_le _)
  simp only [ofRecord, run]

end Layout

namespace Decode

variable {α β : Type}

/-- Whatever the decoder reads, it reads at every tally of array elements, which it leaves alone. -/
def Untallied (d : Decode α) : Prop :=
  ∀ ⦃c c' : Cursor⦄ ⦃a : α⦄, d c = .ok a c' →
    ∀ n, d { c with elements := n } = .ok a { c' with elements := n }

namespace Untallied

protected theorem pure (a : α) : Untallied (pure a) := by
  intro c c' b run n
  cases run
  rfl

theorem bind {d : Decode α} {f : α → Decode β} (h : Untallied d) (h' : ∀ a, Untallied (f a)) :
    Untallied (d >>= f) := by
  intro c c'' b run n
  obtain ⟨a, c', first, second⟩ := bind_eq_ok.mp run
  exact bind_eq_ok.mpr ⟨a, _, h first n, h' a second n⟩

theorem map {d : Decode α} (h : Untallied d) (f : α → β) : Untallied (do return f (← d)) :=
  h.bind fun a => .pure (f a)

/-- Bytes that announce no elements are read at every index and tally, whatever follows them. -/
theorem read {d : Decode α} {raw : Bytes} {a : α} (h : Untallied d) (reads : Reads d raw 0 a)
    (tail : Bytes) (index elements : Nat) :
    d ⟨raw ++ tail, index, elements⟩ = .ok a ⟨tail, index + raw.length, elements⟩ := by
  have fresh : d ⟨raw ++ tail, index, 0⟩ = .ok a ⟨tail, index + raw.length, 0⟩ :=
    reads ⟨rfl, rfl, rfl⟩ (Nat.zero_le _)
  exact h fresh elements

end Untallied

theorem untallied_bytes (n : Nat) : Untallied (bytes n) := by
  intro c c' a run k
  rcases Nat.lt_or_ge c.rest.length n with short | enough
  · rw [bytes_of_lt short] at run
    cases run
  · rw [bytes_of_le enough] at run
    cases run
    exact bytes_of_le (c := { c with elements := k }) enough

theorem untallied_scalar (t : ScalarType) : Untallied (scalar t) := by
  refine (untallied_bytes t.size).bind fun raw => ?_
  cases t.check raw with
  | ok => exact .pure _
  | error e => intro c c' a run; cases run

end Decode

theorem Handle.untallied_readRecord : Handle.readRecord.Untallied :=
  (Decode.untallied_scalar _).bind fun _ => (Decode.untallied_scalar _).bind fun _ =>
    (Decode.untallied_scalar _).map _

mutual

theorem Layout.untallied_readRecord : (l : Layout) → l.readRecord.Untallied
  | .scalar t => Decode.untallied_scalar t
  | .text => Handle.untallied_readRecord
  | .packed _ => Handle.untallied_readRecord
  | .list _ => Handle.untallied_readRecord
  | .option item => by
      rw [Layout.readRecord]
      refine (Decode.untallied_scalar .bool).bind fun present => ?_
      cases present with
      | true => exact item.untallied_readRecord.map some
      | false => exact (Decode.untallied_bytes item.recordSize).map fun _ => none
  | .record _ fields => fields.untallied_readRecord

theorem Fields.untallied_readRecord : (fs : Fields) → fs.readRecord.Untallied
  | .nil => .pure ()
  | .cons _ layout rest => by
      rw [Fields.readRecord]
      exact layout.untallied_readRecord.bind fun x =>
        rest.untallied_readRecord.map fun xs => (x, xs)

end

/-- The record of a value is as long as its layout says. Writing it moves a buffer with room for it
by that length and changes no other byte. Reading it back, at any place of an input and whatever
follows, gives the value and moves the cursor by the same length. -/
theorem Layout.record_round_trip (l : Layout) (x : l.Stored) (fits : l.Fits x) :
    (l.recordBytes x).length = l.recordSize ∧
      (∀ b : Buffer, l.recordSize ≤ b.remaining → ∃ b', l.writeRecord x b = .ok () b' ∧
        b'.index = b.index + l.recordSize ∧
        b'.contents = b.contents.take b.index ++ l.recordBytes x ++ b.contents.drop b'.index) ∧
      ∀ tail index elements,
        l.readRecord ⟨l.recordBytes x ++ tail, index, elements⟩ =
          .ok x ⟨tail, index + l.recordSize, elements⟩ := by
  have record := l.isRecord_recordBytes x
  refine ⟨record.sized, ?_, ?_⟩
  · intro b room
    rw [← record.sized] at room
    have moved : (b.advance (l.recordBytes x)).index = b.index + l.recordSize := by
      rw [b.index_advance, record.sized]
    refine ⟨_, record.writes room, moved, ?_⟩
    rw [b.contents_advance, moved, record.sized]
  · intro tail index elements
    rw [l.untallied_readRecord.read (record.reads fits) tail index elements, record.sized]

namespace Catalog

/-- An inventory without an origin, its handles at the ends of their range. -/
def farInventory : inventory.layout.Stored :=
  (⟨18446744073709551615, 0, 0⟩, none, ⟨0, 18446744073709551615, 4294967295⟩, ⟨8, 2, 1⟩,
    ⟨24, 5, 1⟩, ())

theorem record_round_trip_farInventory :
    inventory.layout.recordSize = 89 ∧ inventory.layout.Fits farInventory ∧
      (∃ b, inventory.layout.writeRecord farInventory (.blank 89 170) = .ok () b ∧ b.index = 89) ∧
      inventory.layout.readRecord ⟨inventory.layout.recordBytes farInventory ++ [170], 5, 0⟩ =
        .ok farInventory ⟨[170], 94, 0⟩ := by
  have fits : inventory.layout.Fits farInventory := by
    refine ⟨⟨?_, ?_⟩, trivial, ⟨?_, ?_⟩, ⟨?_, ?_⟩, ⟨?_, ?_⟩, trivial⟩ <;> decide
  obtain ⟨-, writes, reads⟩ := inventory.layout.record_round_trip farInventory fits
  obtain ⟨b, written, moved, -⟩ := writes (.blank 89 170) (by decide)
  exact ⟨rfl, fits, ⟨b, written, moved⟩, reads [170] 5 0⟩

end Catalog

example : Catalog.messages.map (·.layout.recordSize) = [8, 63, 64, 89] := by decide

end SchemaWire

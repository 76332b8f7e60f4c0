import Mathlib.Algebra.Order.BigOperators.Group.List
import SchemaWire.Layout.Owned
import SchemaWire.Proofs.Wire.Parallel
import SchemaWire.Proofs.Wire.Writing

/-!
The wire form of owned values. `Layout.bytes` says what a value lies on the wire as. Its length is
the value's size, the encoder writes it, and within the limits the decoder reads the value off it.
-/
namespace SchemaWire

mutual

def Layout.bytes : (l : Layout) → l.Owned → Bytes
  | .scalar t, x => t.toBytes x
  | .text, (s : String) => textBytes s
  | .packed t, (xs : List t.Carrier) => littleEndian 4 xs.length ++ xs.flatMap t.toBytes
  | .list item, (xs : List item.Owned) => littleEndian 4 xs.length ++ xs.flatMap item.bytes
  | .option item, x =>
    match x with
    | some y => ScalarType.bool.toBytes true ++ item.bytes y
    | none => ScalarType.bool.toBytes false
  | .record _ fields, x => fields.bytes x

def Fields.bytes : (fs : Fields) → fs.Owned → Bytes
  | .nil, _ => []
  | .cons _ layout rest, (x, xs) => layout.bytes x ++ rest.bytes xs

end

mutual

/-- The lengths of the arrays in a value, at every depth. -/
def Layout.arrays : (l : Layout) → l.Owned → List Nat
  | .scalar _, _ => []
  | .text, _ => []
  | .packed _, (xs : List _) => [xs.length]
  | .list item, (xs : List item.Owned) => xs.length :: xs.flatMap item.arrays
  | .option item, x =>
    match x with
    | some y => item.arrays y
    | none => []
  | .record _ fields, x => fields.arrays x

def Fields.arrays : (fs : Fields) → fs.Owned → List Nat
  | .nil, _ => []
  | .cons _ layout rest, (x, xs) => layout.arrays x ++ rest.arrays xs

end

/-- What a decoder accepts: a payload, arrays and a total of their elements that are not too
large. -/
structure Layout.WithinLimits (l : Layout) (x : l.Owned) : Prop where
  size : l.size x ≤ maxSerializedSize
  arrays : ∀ n ∈ l.arrays x, n ≤ maxArrayElements
  total : (l.arrays x).sum ≤ maxTotalElements

mutual

/-- The least number of bytes that a value takes. -/
def Layout.least : Layout → Nat
  | .scalar t => t.size
  | .text | .packed _ | .list _ => 4
  | .option _ => 1
  | .record _ fields => fields.least

def Fields.least : Fields → Nat
  | .nil => 0
  | .cons _ layout rest => layout.least + rest.least

end

mutual

/-- The items of lists take a byte each at least. -/
def Layout.solid : Layout → Bool
  | .scalar _ | .text | .packed _ => true
  | .list item => decide (0 < item.least) && item.solid
  | .option item => item.solid
  | .record _ fields => fields.solid

def Fields.solid : Fields → Bool
  | .nil => true
  | .cons _ layout rest => layout.solid && rest.solid

end

mutual

theorem Layout.length_bytes : (l : Layout) → (x : l.Owned) → (l.bytes x).length = l.size x
  | .scalar t, x => t.toBytes_length x
  | .text, (s : String) => textBytes_length s
  | .packed t, (xs : List t.Carrier) => by
      change (littleEndian 4 xs.length ++ xs.flatMap t.toBytes).length = 4 + xs.length * t.size
      rw [List.length_append, littleEndian_length, List.length_flatMap]
      simp [t.toBytes_length]
  | .list item, (xs : List item.Owned) => by
      have each : xs.map (fun x => (item.bytes x).length) = xs.map item.size :=
        List.map_congr_left fun x _ => item.length_bytes x
      change (littleEndian 4 xs.length ++ xs.flatMap item.bytes).length = 4 + (xs.map item.size).sum
      rw [List.length_append, littleEndian_length, List.length_flatMap, each]
  | .option item, some y => by
      change (ScalarType.bool.toBytes true ++ item.bytes y).length = 1 + item.size y
      rw [List.length_append, ScalarType.toBytes_length, item.length_bytes]
      rfl
  | .option _, none => rfl
  | .record _ fields, x => fields.length_bytes x

theorem Fields.length_bytes : (fs : Fields) → (x : fs.Owned) → (fs.bytes x).length = fs.size x
  | .nil, _ => rfl
  | .cons _ layout rest, (x, xs) => by
      rw [Fields.bytes, Fields.size, List.length_append, layout.length_bytes, rest.length_bytes]

end

theorem Encode.writes_forM {α : Type} {item : α → Encode Unit} {bytes : α → Bytes}
    (each : ∀ x, (item x).Writes (bytes x)) (xs : List α) :
    Encode.Writes (xs.forM item) (xs.flatMap bytes) := by
  induction xs with
  | nil => exact writes_nothing
  | cons x rest ih => exact (each x).bind ih

mutual

theorem Layout.encode_writes : (l : Layout) → (x : l.Owned) → (l.encode x).Writes (l.bytes x)
  | .scalar t, x => Encode.writes_scalar t x
  | .text, (s : String) => Encode.writes_text s
  | .packed t, (xs : List t.Carrier) =>
      (Encode.writes_length xs.length).bind (Encode.writes_forM (Encode.writes_scalar t) xs)
  | .list item, (xs : List item.Owned) =>
      (Encode.writes_length xs.length).bind (Encode.writes_forM item.encode_writes xs)
  | .option item, some y => (Encode.writes_scalar .bool true).bind (item.encode_writes y)
  | .option _, none => Encode.writes_scalar .bool false
  | .record _ fields, x => fields.encode_writes x

theorem Fields.encode_writes : (fs : Fields) → (x : fs.Owned) → (fs.encode x).Writes (fs.bytes x)
  | .nil, _ => Encode.writes_nothing
  | .cons _ layout rest, (x, xs) => (layout.encode_writes x).bind (rest.encode_writes xs)

end

mutual

theorem Layout.least_le : (l : Layout) → (x : l.Owned) → l.least ≤ l.size x
  | .scalar _, _ => Nat.le_refl _
  | .text, (_ : String) => Nat.le_add_right ..
  | .packed _, (_ : List _) => Nat.le_add_right ..
  | .list _, (_ : List _) => Nat.le_add_right ..
  | .option _, some _ => Nat.le_add_right ..
  | .option _, none => Nat.le_refl _
  | .record _ fields, x => fields.least_le x

theorem Fields.least_le : (fs : Fields) → (x : fs.Owned) → fs.least ≤ fs.size x
  | .nil, _ => Nat.le_refl _
  | .cons _ layout rest, (x, xs) => Nat.add_le_add (layout.least_le x) (rest.least_le xs)

end

namespace Decode

variable {α : Type}

theorem Row.flatMap {P : Bytes → Nat → α → Prop} {bytes : α → Bytes} {arrays : α → List Nat}
    {xs : List α} (each : ∀ x ∈ xs, P (bytes x) (arrays x).sum x) :
    Row P (xs.flatMap bytes) (xs.flatMap arrays).sum xs := by
  induction xs with
  | nil => exact .nil
  | cons x rest ih =>
      rw [List.flatMap_cons, List.flatMap_cons, List.sum_append]
      exact .cons (each x (List.mem_cons_self ..)) (ih fun y later => each y (.tail _ later))

theorem Parallel.reads {d d' : Decode α} (h : Parallel d d' Eq) {raw : Bytes} {k : Nat} {a : α}
    (reads : Reads d' raw k a) : Reads d raw k a := by
  intro c c' adv within
  have run' := reads adv within
  cases run : d c with
  | ok b c₁ =>
      obtain ⟨_, same, rfl⟩ := h.ok run
      cases same.symm.trans run'
      rfl
  | error e c₁ =>
      obtain ⟨_, _, failed, -⟩ := h.error run
      cases failed.symm.trans run'

theorem reads_packed {t : ScalarType} {xs : List t.Carrier} (small : xs.length ≤ maxArrayElements) :
    Reads (packed t) (littleEndian 4 xs.length ++ xs.flatMap t.toBytes) xs.length xs := by
  have solid : ∀ x : t.Carrier, t.toBytes x ≠ [] := by
    intro x
    apply List.ne_nil_of_length_pos
    rw [t.toBytes_length]
    exact t.size_pos
  have row : Row (fun raw k x => Reads (scalar t) raw k x ∧ raw ≠ []) (xs.flatMap t.toBytes)
      (xs.flatMap fun _ => []).sum xs := Row.flatMap fun x _ => ⟨reads_scalar t x, solid x⟩
  have flat : (xs.flatMap fun _ => ([] : List Nat)) = [] :=
    List.flatMap_eq_nil_iff.mpr fun _ _ => rfl
  rw [flat] at row
  exact (parallel_packed t).reads (reads_list small row)

end Decode

mutual

/-- Within the limits a value is read off its bytes. -/
theorem Layout.decode_reads : (l : Layout) → l.solid = true → (x : l.Owned) →
    l.size x < 2 ^ 32 → (∀ n ∈ l.arrays x, n ≤ maxArrayElements) →
    l.decode.Reads (l.bytes x) (l.arrays x).sum x
  | .scalar t, _, x, _, _ => Decode.reads_scalar t x
  | .text, _, (s : String), small, _ => by
      apply Decode.reads_text
      rw [bytesOfText_length]
      exact Nat.lt_of_le_of_lt (Nat.le_add_left ..) small
  | .packed t, _, (xs : List t.Carrier), _, arrays =>
      Decode.reads_packed (arrays xs.length (.head _))
  | .list item, solid, (xs : List item.Owned), small, arrays => by
      rw [Layout.solid, Bool.and_eq_true, decide_eq_true_eq] at solid
      have each : ∀ x ∈ xs,
          item.decode.Reads (item.bytes x) (item.arrays x).sum x ∧ item.bytes x ≠ [] := by
        intro x member
        have part : item.size x ≤ (xs.map item.size).sum :=
          List.le_sum_of_mem (List.mem_map_of_mem member)
        constructor
        · apply item.decode_reads solid.2 x
          · exact Nat.lt_of_le_of_lt (Nat.le_trans part (Nat.le_add_left ..)) small
          · intro n inside
            exact arrays n (.tail _ (List.mem_flatMap.mpr ⟨x, member, inside⟩))
        · apply List.ne_nil_of_length_pos
          rw [item.length_bytes]
          exact Nat.lt_of_lt_of_le solid.1 (item.least_le x)
      exact Decode.reads_list (arrays xs.length (.head _)) (Decode.Row.flatMap each)
  | .option item, solid, some y, small, arrays =>
      Decode.reads_option_some
        (item.decode_reads solid y (Nat.lt_of_le_of_lt (Nat.le_add_left ..) small) arrays)
  | .option item, _, none, _, _ => Decode.reads_option_none item.decode
  | .record _ fields, solid, x, small, arrays => fields.decode_reads solid x small arrays

theorem Fields.decode_reads : (fs : Fields) → fs.solid = true → (x : fs.Owned) →
    fs.size x < 2 ^ 32 → (∀ n ∈ fs.arrays x, n ≤ maxArrayElements) →
    fs.decode.Reads (fs.bytes x) (fs.arrays x).sum x
  | .nil, _, _, _, _ => Decode.Reads.pure ()
  | .cons _ layout rest, solid, (x, xs), small, arrays => by
      rw [Fields.solid, Bool.and_eq_true] at solid
      rw [Fields.size] at small
      rw [Fields.arrays, List.forall_mem_append] at arrays
      rw [Fields.arrays, List.sum_append]
      exact (layout.decode_reads solid.1 x (by omega) arrays.1).bind
        ((rest.decode_reads solid.2 xs (by omega) arrays.2).map _)

end

end SchemaWire

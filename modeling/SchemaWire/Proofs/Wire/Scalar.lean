import Mathlib.Algebra.Order.Ring.Nat
import SchemaWire.Wire.Scalar

/-!
Scalars and texts have exactly one wire form: reading it back and writing it again lose nothing.
-/
namespace SchemaWire

theorem hasAtLeast_iff {α : Type} (n : Nat) (xs : List α) :
    hasAtLeast n xs = true ↔ n ≤ xs.length := by
  induction n generalizing xs with
  | zero => simp only [hasAtLeast, Nat.zero_le]
  | succ n ih =>
      cases xs with
      | nil => simp [hasAtLeast]
      | cons x xs => simp only [hasAtLeast, ih, List.length_cons, Nat.add_le_add_iff_right]

@[simp] theorem littleEndian_length (width n : Nat) : (littleEndian width n).length = width := by
  induction width generalizing n with
  | zero => rfl
  | succ width ih => exact congrArg Nat.succ (ih _)

theorem ofLittleEndian_lt (bytes : Bytes) : ofLittleEndian bytes < 256 ^ bytes.length := by
  induction bytes with
  | nil => exact Nat.one_pos
  | cons b rest ih =>
      have low := b.toNat_lt
      rw [List.length_cons, Nat.pow_succ, ofLittleEndian]
      omega

theorem ofLittleEndian_littleEndian (width n : Nat) :
    ofLittleEndian (littleEndian width n) = n % 256 ^ width := by
  induction width generalizing n with
  | zero => rw [Nat.pow_zero, Nat.mod_one]; rfl
  | succ width ih =>
      rw [littleEndian, ofLittleEndian, ih, Nat.pow_succ, Nat.mul_comm (256 ^ width), Nat.mod_mul]
      rfl

theorem littleEndian_ofLittleEndian (bytes : Bytes) :
    littleEndian bytes.length (ofLittleEndian bytes) = bytes := by
  induction bytes with
  | nil => rfl
  | cons b rest ih =>
      have low := b.toNat_lt
      -- The first byte is the remainder by 256, the others are the quotient.
      have quotient : (b.toNat + 256 * ofLittleEndian rest) / 256 = ofLittleEndian rest := by omega
      have remainder : UInt8.ofNat (b.toNat + 256 * ofLittleEndian rest) = b := by
        apply UInt8.toNat_inj.mp
        rw [UInt8.toNat_ofNat']
        omega
      rw [List.length_cons, ofLittleEndian, littleEndian, quotient, remainder, ih]

namespace ScalarType

theorem size_pos (t : ScalarType) : 0 < t.size := by
  cases t with
  | word w => cases w <;> exact Nat.succ_pos _
  | bool => exact Nat.one_pos

@[simp] theorem toBytes_length (t : ScalarType) (x : t.Carrier) :
    (t.toBytes x).length = t.size := by
  cases t with
  | word w => exact littleEndian_length _ _
  | bool => rfl

@[simp] theorem check_toBytes (t : ScalarType) (x : t.Carrier) :
    t.check (t.toBytes x) = .ok () := by
  cases t with
  | word w => rfl
  | bool => cases x <;> rfl

@[simp] theorem ofBytes_toBytes (t : ScalarType) (x : t.Carrier) : t.ofBytes (t.toBytes x) = x := by
  cases t with
  | word w =>
      apply BitVec.eq_of_toNat_eq
      have wide : 256 ^ w.size = 2 ^ (8 * w.size) := by rw [Nat.pow_mul]
      simp only [ofBytes, toBytes, ofLittleEndian_littleEndian, BitVec.toNat_ofNat, wide,
        Nat.mod_eq_of_lt x.isLt]
  | bool => cases x <;> rfl

/-- Every checked byte pattern is the wire form of the value it stands for. -/
theorem toBytes_ofBytes (t : ScalarType) {bytes : Bytes} (sized : bytes.length = t.size)
    (checked : t.check bytes = .ok ()) : t.toBytes (t.ofBytes bytes) = bytes := by
  cases t with
  | word w =>
      change bytes.length = w.size at sized
      have wide : 2 ^ (8 * w.size) = 256 ^ bytes.length := by rw [Nat.pow_mul, sized]
      simp only [ofBytes, toBytes, BitVec.toNat_ofNat, wide]
      rw [Nat.mod_eq_of_lt (ofLittleEndian_lt bytes), ← sized, littleEndian_ofLittleEndian]
  | bool =>
      obtain ⟨b, rfl⟩ := List.length_eq_one_iff.mp sized
      by_cases valid : b = 0 ∨ b = 1
      · rcases valid with rfl | rfl <;> rfl
      · simp [check, valid] at checked

end ScalarType

def textBytes (s : String) : Bytes := littleEndian 4 (bytesOfText s).length ++ bytesOfText s

theorem bytesOfText_length (s : String) : (bytesOfText s).length = s.utf8ByteSize := rfl

@[simp] theorem textOfBytes?_bytesOfText (s : String) : textOfBytes? (bytesOfText s) = some s :=
  dif_pos s.isValidUTF8

theorem bytesOfText_of_textOfBytes? {raw : Bytes} {s : String} (h : textOfBytes? raw = some s) :
    bytesOfText s = raw := by
  unfold textOfBytes? String.fromUTF8? at h
  split at h
  · cases h; rfl
  · cases h

theorem textBytes_length (s : String) : (textBytes s).length = 4 + s.utf8ByteSize := by
  rw [textBytes, List.length_append, littleEndian_length, bytesOfText_length]

end SchemaWire

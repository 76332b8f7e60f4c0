import SchemaWire.Proofs.Wire.Reading

/-! Views: cutting bytes into blocks, and which bytes are a fixed-width array. -/
namespace SchemaWire

theorem length_flatMap_of_sized {α : Type} {toBytes : α → Bytes} {width : Nat}
    (sized : ∀ x, (toBytes x).length = width) (xs : List α) :
    (xs.flatMap toBytes).length = xs.length * width := by
  induction xs with
  | nil => exact (Nat.zero_mul width).symm
  | cons x xs ih =>
      rw [List.flatMap_cons, List.length_append, sized, ih, List.length_cons, Nat.succ_mul,
        Nat.add_comm]

/-- Blocks put back to back are cut apart again. -/
theorem blocks_flatMap {α : Type} {toBytes : α → Bytes} {width : Nat}
    (sized : ∀ x, (toBytes x).length = width) (xs : List α) (done : List Bytes) :
    blocks width xs.length (xs.flatMap toBytes) done = done.reverse ++ xs.map toBytes := by
  induction xs generalizing done with
  | nil => exact (List.append_nil _).symm
  | cons x xs ih =>
      rw [List.flatMap_cons, List.length_cons, blocks, List.drop_left' (sized x),
        List.take_left' (sized x), ih, List.reverse_cons, List.append_assoc, List.map_cons,
        List.singleton_append]

theorem blocks_append (width count : Nat) (raw : Bytes) (done : List Bytes) :
    blocks width count raw done = done.reverse ++ blocks width count raw [] := by
  induction count generalizing raw done with
  | zero => exact (List.append_nil _).symm
  | succ count ih =>
      rw [blocks, blocks, ih, ih _ [_], List.reverse_cons, List.append_assoc,
        List.reverse_singleton]

namespace View

variable {t : ScalarType} {raw : Bytes}

/-- A whole number of elements is a view if each of them passes its check. -/
theorem ofBytes_of_sized {count : Nat} (sized : raw.length = count * t.size) :
    ofBytes t raw = (checkElements t count raw).map fun _ => ⟨raw⟩ := by
  have even : (raw.length % t.size != 0) = false := by
    rw [sized, Nat.mul_mod_left]
    rfl
  have quotient : raw.length / t.size = count := by rw [sized, Nat.mul_div_cancel _ t.size_pos]
  simp only [ofBytes, even, Bool.false_eq_true, if_false, quotient]
  cases checkElements t count raw <;> rfl

theorem ofBytes_eq_ok {v : View t} (h : ofBytes t raw = .ok v) :
    v = ⟨raw⟩ ∧ raw.length = v.length * t.size := by
  by_cases whole : raw.length % t.size = 0
  · have sized : raw.length = raw.length / t.size * t.size := by
      rw [Nat.div_mul_cancel (Nat.dvd_of_mod_eq_zero whole)]
    rw [ofBytes_of_sized sized] at h
    cases checked : checkElements t (raw.length / t.size) raw with
    | ok =>
        rw [checked] at h
        cases h
        exact ⟨rfl, sized⟩
    | error e =>
        rw [checked] at h
        cases h
  · have odd : (raw.length % t.size != 0) = true := bne_iff_ne.mpr whole
    simp only [ofBytes, odd, if_true] at h
    cases h

theorem checkElements_flatMap (xs : List t.Carrier) :
    checkElements t xs.length (xs.flatMap t.toBytes) = .ok () := by
  induction xs with
  | nil => rfl
  | cons x xs ih =>
      rw [List.flatMap_cons, List.length_cons, checkElements, List.take_left' (t.toBytes_length x),
        List.drop_left' (t.toBytes_length x), t.check_toBytes]
      exact ih

def pack (t : ScalarType) (xs : List t.Carrier) : View t := ⟨xs.flatMap t.toBytes⟩

theorem pack_length (xs : List t.Carrier) : (pack t xs).length = xs.length := by
  rw [length, pack, length_flatMap_of_sized t.toBytes_length, Nat.mul_div_cancel _ t.size_pos]

theorem ofBytes_pack (xs : List t.Carrier) : ofBytes t (pack t xs).bytes = .ok (pack t xs) := by
  have checked := ofBytes_of_sized (length_flatMap_of_sized t.toBytes_length xs)
  rw [checkElements_flatMap] at checked
  exact checked

theorem toList_pack (xs : List t.Carrier) : (pack t xs).toList = xs := by
  have cut : blocks t.size xs.length (pack t xs).bytes [] = xs.map t.toBytes :=
    blocks_flatMap t.toBytes_length xs []
  rw [toList, pack_length, cut, List.map_map]
  exact List.map_id'' t.ofBytes_toBytes xs

end View

namespace Decode

theorem accepts_view (t : ScalarType) :
    Accepts (view t) fun raw k v => raw = littleEndian 4 v.length ++ v.bytes ∧ k = v.length ∧
      v.length ≤ maxArrayElements ∧ View.ofBytes t v.bytes = .ok v := by
  refine accepts_count.bind (Q := fun n raw k v => raw.length = n * t.size ∧ k = 0 ∧
    View.ofBytes t raw = .ok v) ?_ ?_
  · intro n
    refine (accepts_bytes (n * t.size)).bind (fun a => accepts_ofExcept (View.ofBytes t a)) ?_
    rintro raw _ _ _ _ v ⟨sized, rfl, rfl⟩ ⟨rfl, rfl, valid⟩
    rw [List.append_nil]
    exact ⟨sized, rfl, valid⟩
  · rintro _ n _ raw _ v ⟨rfl, rfl, small⟩ ⟨sized, rfl, valid⟩
    obtain ⟨rfl, whole⟩ := View.ofBytes_eq_ok valid
    have counted : View.length ⟨raw⟩ = n :=
      Nat.eq_of_mul_eq_mul_right t.size_pos (whole.symm.trans sized)
    rw [counted]
    exact ⟨rfl, rfl, small, valid⟩

end Decode
end SchemaWire

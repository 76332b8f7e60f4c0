import SchemaWire.Layout.Stored
import SchemaWire.Proofs.Wire.View

/-!
Random access to the elements of a view and to the records of a list. Whatever the index, it gives
what stands at that place of the sequence. On the way a width is added to a position, and for every
width there is one index at which the sum is no position any more.
-/
namespace SchemaWire

theorem getElem?_blocks (width count : Nat) (raw : Bytes) (index : Nat) :
    (blocks width count raw [])[index]? =
      if index < count then some ((raw.drop (index * width)).take width) else none := by
  induction count generalizing raw index with
  | zero => rfl
  | succ count ih =>
      rw [blocks, blocks_append, List.reverse_singleton, List.singleton_append]
      cases index with
      | zero => simp
      | succ index =>
          rw [List.getElem?_cons_succ, ih, List.drop_drop, Nat.succ_mul, Nat.add_comm width]
          simp only [Nat.add_lt_add_iff_right]

theorem length_blocks (width count : Nat) (raw : Bytes) :
    (blocks width count raw []).length = count := by
  induction count generalizing raw with
  | zero => rfl
  | succ count ih =>
      rw [blocks, blocks_append, List.length_append, ih, List.length_reverse, List.length_singleton,
        Nat.add_comm]

/-- The element at an index starts at a position but ends beyond the last one. -/
def Overruns (width index : Nat) : Prop :=
  ∃ start stop, span? width index = some (start, stop) ∧ maxPosition < stop

section Span

variable {width index : Nat}

theorem span?_of_le (near : index * width ≤ maxPosition) :
    span? width index = some (index * width, index * width + width) :=
  if_pos near

theorem span?_of_lt (far : maxPosition < index * width) : span? width index = none :=
  if_neg (Nat.not_le_of_lt far)

theorem overruns_iff (wide : 0 < width) : Overruns width index ↔ index = maxPosition / width := by
  constructor
  · rintro ⟨start, stop, found, past⟩
    rcases Nat.lt_or_ge maxPosition (index * width) with far | near
    · rw [span?_of_lt far] at found
      cases found
    · rw [span?_of_le near] at found
      cases found
      rw [← Nat.succ_mul] at past
      have upper : index ≤ maxPosition / width := (Nat.le_div_iff_mul_le wide).mpr near
      have lower : maxPosition / width < index + 1 := (Nat.div_lt_iff_lt_mul wide).mpr past
      exact Nat.le_antisymm upper (Nat.le_of_lt_succ lower)
  · rintro rfl
    refine ⟨_, _, span?_of_le (Nat.div_mul_le_self maxPosition width), ?_⟩
    rw [← Nat.succ_mul, Nat.mul_comm]
    exact Nat.lt_mul_div_succ maxPosition wide

/-- Access by a span finds the block at an index, as long as all bytes have positions. -/
theorem slice?_span? (wide : 0 < width) {raw : Bytes} (addressable : raw.length ≤ maxPosition) :
    ((span? width index).bind fun span => slice? raw span.1 span.2) =
      (blocks width (raw.length / width) raw [])[index]? := by
  have whole : index < raw.length / width ↔ index * width + width ≤ raw.length := by
    rw [← Nat.succ_mul]
    exact Nat.le_div_iff_mul_le wide
  rw [getElem?_blocks]
  rcases Nat.lt_or_ge maxPosition (index * width) with far | near
  · -- An element inside the bytes would start at a position.
    have outside : ¬ index < raw.length / width := by
      intro inside
      have stop := whole.mp inside
      omega
    rw [span?_of_lt far, if_neg outside]
    rfl
  · rw [span?_of_le near]
    change slice? raw (index * width) (index * width + width) = _
    simp only [slice?, whole, Nat.add_sub_cancel_left]

end Span

namespace View

variable {t : ScalarType}

theorem length_toList (v : View t) : v.toList.length = v.length := by
  rw [toList, List.length_map, length_blocks]

theorem get?_eq_getElem? (v : View t) (addressable : v.bytes.length ≤ maxPosition) (index : Nat) :
    v.get? index = v.toList[index]? := by
  have mapped : v.get? index =
      ((span? t.size index).bind fun span => slice? v.bytes span.1 span.2).map t.ofBytes := by
    rw [get?]
    cases span? t.size index with
    | none => rfl
    | some span =>
        change (slice? v.bytes span.1 span.2).bind _ = (slice? v.bytes span.1 span.2).map _
        cases slice? v.bytes span.1 span.2 <;> rfl
  rw [mapped, slice?_span? t.size_pos addressable, toList, List.getElem?_map]
  rfl

end View

namespace Arena

theorem record?_eq_mapM {a : Arena} {item : Layout} {h : Handle} {raw : Bytes}
    (wide : 0 < item.recordSize) (found : a.block h item.recordSize = .ok raw)
    (addressable : raw.length ≤ maxPosition) (index : Nat) :
    a.record? item h index = (blocks item.recordSize (raw.length / item.recordSize) raw
      [])[index]?.mapM item.ofRecord := by
  rw [← slice?_span? wide addressable, record?, found]
  cases span? item.recordSize index with
  | none => rfl
  | some span =>
      dsimp only [bind, Except.bind, Option.bind]
      cases slice? raw span.1 span.2 <;> rfl

theorem records_of_block {a : Arena} {item : Layout} {h : Handle} {raw : Bytes}
    (found : a.block h item.recordSize = .ok raw) : a.records item h =
      .ok (blocks item.recordSize (raw.length / item.recordSize) raw []) := by
  rw [records, found]
  rfl

end Arena

/-- Random access gives what stands at an index of the sequence, and nothing past its end, both for
the scalars of a view and for the records behind a list handle. On the way the start of the element
is checked to be a position. Its end is not, and lies beyond the last position at one index for every
width. -/
theorem random_access (index : Nat) :
    (∀ (t : ScalarType) (raw : Bytes) (v : View t), View.ofBytes t raw = .ok v →
      raw.length ≤ maxPosition →
        v.get? index = v.toList[index]? ∧ v.toList.length = v.length ∧
          (Overruns t.size index ↔ index = maxPosition / t.size)) ∧
      ∀ (a : Arena) (item : Layout) (h : Handle) (raw : Bytes),
        a.block h item.recordSize = .ok raw → raw.length ≤ maxPosition → 0 < item.recordSize →
          ∃ records, a.records item h = .ok records ∧
            a.record? item h index = records[index]?.mapM item.ofRecord ∧
            records.length = raw.length / item.recordSize ∧
            (Overruns item.recordSize index ↔ index = maxPosition / item.recordSize) := by
  constructor
  · intro t raw v accepted addressable
    obtain ⟨rfl, -⟩ := View.ofBytes_eq_ok accepted
    exact ⟨View.get?_eq_getElem? _ addressable index, View.length_toList _, overruns_iff t.size_pos⟩
  · intro a item h raw found addressable wide
    exact ⟨_, Arena.records_of_block found, Arena.record?_eq_mapM wide found addressable index,
      length_blocks _ _ _, overruns_iff wide⟩

/-- The records of a text of one byte and an empty text. -/
def twoTextRecords : Bytes :=
  littleEndian 8 40 ++ littleEndian 8 1 ++ littleEndian 4 0 ++
    littleEndian 8 48 ++ littleEndian 8 0 ++ littleEndian 4 0

/-- An arena with a list of two texts. -/
def twoTexts : Arena := ⟨(twoTextRecords ++ [97, 0, 0, 0, 0, 0, 0, 0]).toArray, 48, 0⟩

theorem random_access_twoTexts :
    View.ofBytes (.word .u16) [1, 0, 2, 0] = .ok ⟨[1, 0, 2, 0]⟩ ∧
      (⟨[1, 0, 2, 0]⟩ : View (.word .u16)).get? 1 = some 2 ∧
      twoTexts.block ⟨0, 2, 0⟩ Layout.text.recordSize = .ok twoTextRecords ∧
      twoTexts.record? .text ⟨0, 2, 0⟩ 1 = .ok (some (⟨48, 0, 0⟩ : Handle)) := by
  have accepted : View.ofBytes (.word .u16) [1, 0, 2, 0] = .ok ⟨[1, 0, 2, 0]⟩ := rfl
  have found : twoTexts.block ⟨0, 2, 0⟩ Layout.text.recordSize = .ok twoTextRecords := rfl
  obtain ⟨views, lists⟩ := random_access 1
  obtain ⟨second, -⟩ := views _ _ _ accepted (by decide)
  obtain ⟨records, located, record, -⟩ :=
    lists twoTexts .text ⟨0, 2, 0⟩ _ found (by decide) (by decide)
  cases located
  exact ⟨accepted, second, found, record⟩

/-- In a view of bytes, the element at the last index of all starts at a 64-bit position and ends at
none. So does the last text record that starts at one. -/
theorem overruns_last_index :
    View.ofBytes (.word .u8) [1, 2, 3] = .ok ⟨[1, 2, 3]⟩ ∧ maxPosition = 2 ^ 64 - 1 ∧
      span? (ScalarType.word .u8).size maxPosition = some (maxPosition, maxPosition + 1) ∧
      span? Layout.text.recordSize 922337203685477580 =
        some (18446744073709551600, 18446744073709551620) ∧
      ¬ maxPosition + 1 ≤ maxPosition ∧ ¬ 18446744073709551620 ≤ maxPosition := by
  refine ⟨rfl, rfl, rfl, rfl, ?_, ?_⟩ <;> decide

end SchemaWire

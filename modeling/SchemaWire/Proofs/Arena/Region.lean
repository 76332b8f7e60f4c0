import Mathlib.Algebra.Order.Ring.Nat
import SchemaWire.Arena.Basic

/-!
What arena operations do to the region. An allocation extends an arena: it hands out bytes behind
those in use and leaves these alone. Reachable arenas use no more than they have.
-/
namespace SchemaWire.Arena

theorem le_roundUp (size : Nat) : size ≤ roundUp size := by
  unfold roundUp align
  omega

theorem roundUp_le (size : Nat) : roundUp size ≤ size + 7 := by
  unfold roundUp align
  omega

theorem le_doubled {goal capacity : Nat} (h : 0 < capacity) : goal ≤ doubled goal capacity := by
  fun_induction doubled goal capacity with
  | case1 capacity below ih => exact ih (by omega)
  | case2 capacity reached => omega

/-- No more bytes are in use than the region has. -/
def Sound (a : Arena) : Prop := a.used ≤ a.region.size

/-- Bytes lie in the region from an offset on. -/
def Has (a : Arena) (offset : Nat) (raw : Bytes) : Prop :=
  ∀ i < raw.length, a.region[offset + i]? = raw[i]?

/-- What decoders and allocations that copy do to an arena, one step at a time. -/
inductive Step : Arena → Arena → Prop where
  | alloc (a : Arena) (size : Nat) : Step a (a.alloc size).2
  | store (a : Arena) (offset : Nat) (raw : Bytes) : Step a (a.store offset raw)

/-- Some steps led to an arena that uses `n` more bytes. -/
structure Grows (a : Arena) (n : Nat) (a' : Arena) : Prop where
  steps : Relation.ReflTransGen Step a a'
  sound : a'.Sound
  generation : a'.generation = a.generation
  used : a'.used = a.used + n

/-- The bytes in use before are what they were. -/
structure Extends (a : Arena) (n : Nat) (a' : Arena) : Prop extends a.Grows n a' where
  bytes : ∀ i < a.used, a'.region[i]? = a.region[i]?

/-- Of the bytes in use before, only those from an offset on were replaced, by `raw`. -/
structure Fills (a : Arena) (offset : Nat) (raw : Bytes) (n : Nat) (a' : Arena) : Prop
    extends a.Grows n a' where
  has : a'.Has offset raw
  bytes : ∀ i < a.used, i < offset ∨ offset + raw.length ≤ i → a'.region[i]? = a.region[i]?

/-- Whatever the first arena holds from an offset on, the second one holds too. -/
structure Agrees (a : Arena) (low : Nat) (b : Arena) : Prop where
  generation : b.generation = a.generation
  used : a.used ≤ b.used
  bytes : ∀ i, low ≤ i → i < a.used → b.region[i]? = a.region[i]?

theorem Grows.trans {a b c : Arena} {n m : Nat} (h : a.Grows n b) (h' : b.Grows m c) :
    a.Grows (n + m) c where
  steps := h.steps.trans h'.steps
  sound := h'.sound
  generation := h'.generation.trans h.generation
  used := by rw [h'.used, h.used, Nat.add_assoc]

namespace Extends

variable {a b c : Arena} {n m low : Nat}

theorem refl (sound : a.Sound) : a.Extends 0 a where
  steps := .refl
  sound := sound
  generation := rfl
  used := rfl
  bytes _ _ := rfl

theorem trans (h : a.Extends n b) (h' : b.Extends m c) : a.Extends (n + m) c where
  toGrows := h.toGrows.trans h'.toGrows
  bytes := by
    intro i inside
    have later : i < b.used := by
      rw [h.used]
      omega
    rw [h'.bytes i later, h.bytes i inside]

/-- What agrees with an arena agrees with those it extends. -/
theorem agrees (h : a.Extends n b) (later : b.Agrees low c) : a.Agrees low c where
  generation := later.generation.trans h.generation
  used := by
    have := h.used
    have := later.used
    omega
  bytes := by
    intro i from_low inside
    have used := h.used
    rw [later.bytes i from_low (by omega), h.bytes i inside]

end Extends

namespace Agrees

variable {a b : Arena} {low high : Nat}

theorem refl (a : Arena) (low : Nat) : a.Agrees low a := ⟨rfl, Nat.le_refl _, fun _ _ _ => rfl⟩

theorem mono (h : a.Agrees low b) (le : low ≤ high) : a.Agrees high b :=
  ⟨h.generation, h.used, fun i from_high => h.bytes i (Nat.le_trans le from_high)⟩

theorem trans {c : Arena} (h : a.Agrees low b) (h' : b.Agrees low c) : a.Agrees low c where
  generation := h'.generation.trans h.generation
  used := Nat.le_trans h.used h'.used
  bytes := by
    intro i from_low inside
    rw [h'.bytes i from_low (Nat.lt_of_lt_of_le inside h.used), h.bytes i from_low inside]

theorem has (h : a.Agrees low b) {offset : Nat} {raw : Bytes} (holds : a.Has offset raw)
    (from_low : low ≤ offset) (inside : offset + raw.length ≤ a.used) : b.Has offset raw := by
  intro i bound
  rw [h.bytes _ (by omega) (by omega), holds i bound]

end Agrees

theorem Has.append {a : Arena} {offset : Nat} {raw raw' : Bytes} (h : a.Has offset raw)
    (h' : a.Has (offset + raw.length) raw') : a.Has offset (raw ++ raw') := by
  intro i bound
  rw [List.length_append] at bound
  by_cases first : i < raw.length
  · rw [h i first, List.getElem?_append_left first]
  · have second := h' (i - raw.length) (by omega)
    rw [show offset + raw.length + (i - raw.length) = offset + i by omega] at second
    rw [second, List.getElem?_append_right (by omega)]

namespace Fills

variable {a b c : Arena} {offset n m low : Nat} {raw raw' : Bytes}

theorem refl (sound : a.Sound) (offset : Nat) : a.Fills offset [] 0 a where
  toGrows := (Extends.refl sound).toGrows
  has _ inside := absurd inside (Nat.not_lt_zero _)
  bytes _ _ _ := rfl

theorem trans (h : a.Fills offset raw n b) (h' : b.Fills (offset + raw.length) raw' m c)
    (inside : offset + raw.length ≤ a.used) : a.Fills offset (raw ++ raw') (n + m) c where
  toGrows := h.toGrows.trans h'.toGrows
  has := by
    have used := h.used
    refine Has.append ?_ h'.has
    intro i bound
    rw [h'.bytes _ (by omega) (.inl (by omega)), h.has i bound]
  bytes := by
    intro i bound outside
    have used := h.used
    rw [List.length_append] at outside
    rw [h'.bytes i (by omega) (by omega), h.bytes i bound (by omega)]

/-- What agrees with an arena from behind the bytes that were filled in agreed before. -/
theorem agrees (h : a.Fills offset raw n b) (later : b.Agrees low c)
    (behind : offset + raw.length ≤ low) : a.Agrees low c where
  generation := later.generation.trans h.generation
  used := by
    have := h.used
    have := later.used
    omega
  bytes := by
    intro i from_low inside
    have used := h.used
    rw [later.bytes i from_low (by omega), h.bytes i inside (.inr (by omega))]

end Fills

theorem Extends.fills {a b c : Arena} {offset n m : Nat} {raw : Bytes} (h : a.Extends n b)
    (h' : b.Fills offset raw m c) : a.Fills offset raw (n + m) c where
  toGrows := h.toGrows.trans h'.toGrows
  has := h'.has
  bytes := by
    intro i bound outside
    have used := h.used
    rw [h'.bytes i (by omega) outside, h.bytes i bound]

/-- Filling in bytes that were not in use leaves alone those that were. -/
theorem Extends.fills_unused {a b c : Arena} {n m : Nat} {raw : Bytes} (h : a.Extends n b)
    (h' : b.Fills a.used raw m c) : a.Extends (n + m) c where
  toGrows := h.toGrows.trans h'.toGrows
  bytes i inside := (h.fills h').bytes i inside (.inl inside)

theorem Has.extract {a : Arena} {offset : Nat} {raw : Bytes} (h : a.Has offset raw) :
    (a.region.extract offset (offset + raw.length)).toList = raw := by
  apply List.ext_getElem?
  intro i
  rw [Array.getElem?_toList, Array.getElem?_extract]
  by_cases inside : i < raw.length
  · have there := h i inside
    have bound : offset + i < a.region.size := by
      rw [List.getElem?_eq_getElem inside] at there
      exact (Array.getElem?_eq_some_iff.mp there).1
    rw [if_pos (by omega), there]
  · rw [if_neg (by omega), List.getElem?_eq_none (by omega)]

/-- A handle of the arena's generation leads to the bytes that lie where it points. -/
theorem block_of_has {a : Arena} {h : Handle} {width : Nat} {raw : Bytes}
    (holds : a.Has h.offset raw) (fresh : h.generation = a.generation)
    (sized : raw.length = h.length * width) (inside : h.offset + raw.length ≤ a.used) :
    a.block h width = .ok raw := by
  have bytes := holds.extract
  rw [sized] at bytes inside
  have live : (h.generation != a.generation || decide (a.used < h.offset + h.length * width)) =
      false := by
    rw [fresh, bne_self_eq_false, Bool.false_or, decide_eq_false_iff_not]
    omega
  simp only [block, live, Bool.false_eq_true, if_false, bytes]

theorem overwrite_size (region : Array UInt8) (offset : Nat) (raw : Bytes) :
    (overwrite region offset raw).size = region.size := by
  induction raw generalizing region offset with
  | nil => rfl
  | cons b rest ih => rw [overwrite, ih, Array.size_setIfInBounds]

theorem overwrite_getElem?_outside (region : Array UInt8) {offset i : Nat} {raw : Bytes}
    (outside : i < offset ∨ offset + raw.length ≤ i) :
    (overwrite region offset raw)[i]? = region[i]? := by
  induction raw generalizing region offset with
  | nil => rfl
  | cons b rest ih =>
      rw [List.length_cons] at outside
      rw [overwrite, ih _ (by omega), Array.getElem?_setIfInBounds_ne (by omega)]

theorem overwrite_getElem?_inside (region : Array UInt8) {offset i : Nat} {raw : Bytes}
    (fits : offset + raw.length ≤ region.size) (inside : i < raw.length) :
    (overwrite region offset raw)[offset + i]? = raw[i]? := by
  induction raw generalizing region offset i with
  | nil => exact absurd inside (Nat.not_lt_zero _)
  | cons b rest ih =>
      rw [List.length_cons] at fits inside
      rw [overwrite]
      cases i with
      | zero =>
          have kept : (overwrite (region.setIfInBounds offset b) (offset + 1) rest)[offset]? =
              (region.setIfInBounds offset b)[offset]? :=
            overwrite_getElem?_outside _ (.inl (Nat.lt_succ_self offset))
          have written : (region.setIfInBounds offset b)[offset]? = some b :=
            Array.getElem?_setIfInBounds_self_of_lt (by omega)
          exact kept.trans written
      | succ i =>
          have later :
              (overwrite (region.setIfInBounds offset b) (offset + 1) rest)[offset + 1 + i]? =
                rest[i]? :=
            ih _ (by rw [Array.size_setIfInBounds]; omega) (by omega)
          rw [List.getElem?_cons_succ, ← later, Nat.add_assoc, Nat.add_comm 1 i]

/-! ### Operations -/

theorem store_has {a : Arena} {offset : Nat} {raw : Bytes}
    (fits : offset + raw.length ≤ a.region.size) : (a.store offset raw).Has offset raw :=
  fun _ inside => overwrite_getElem?_inside a.region fits inside

theorem store_grows {a : Arena} (sound : a.Sound) (offset : Nat) (raw : Bytes) :
    a.Grows 0 (a.store offset raw) where
  steps := .single (.store a offset raw)
  sound := by
    rw [Sound, store, overwrite_size]
    exact sound
  generation := rfl
  used := rfl

theorem store_fills {a : Arena} (sound : a.Sound) {offset : Nat} {raw : Bytes}
    (inside : offset + raw.length ≤ a.used) : a.Fills offset raw 0 (a.store offset raw) where
  toGrows := store_grows sound offset raw
  has := store_has (Nat.le_trans inside sound)
  bytes _ _ outside := overwrite_getElem?_outside a.region outside

theorem ensure_generation (goal : Nat) (a : Arena) :
    (a.ensure goal).generation = a.generation := by
  unfold ensure
  split <;> rfl

theorem ensure_of_le {a : Arena} {goal : Nat} (fits : goal ≤ a.capacity) : a.ensure goal = a :=
  if_pos fits

theorem ensure_size (goal : Nat) (a : Arena) :
    goal ≤ (a.ensure goal).region.size ∧ a.region.size ≤ (a.ensure goal).region.size := by
  unfold ensure
  split
  · exact ⟨by assumption, Nat.le_refl _⟩
  · have positive : 0 < max a.region.size minGrowth :=
      Nat.lt_of_lt_of_le (by decide) (Nat.le_max_right ..)
    have reached : goal ≤ doubled goal (max a.region.size minGrowth) := le_doubled positive
    rw [Array.size_append, Array.size_replicate]
    omega

theorem ensure_getElem? (goal : Nat) (a : Arena) {i : Nat} (inside : i < a.region.size) :
    (a.ensure goal).region[i]? = a.region[i]? := by
  unfold ensure
  split
  · rfl
  · exact Array.getElem?_append_left inside

theorem alloc_extends {a : Arena} (sound : a.Sound) (size : Nat) :
    a.Extends (roundUp size) (a.alloc size).2 where
  steps := .single (.alloc a size)
  sound := (ensure_size (a.used + roundUp size) a).1
  generation := ensure_generation _ a
  used := rfl
  bytes _ inside := ensure_getElem? _ a (Nat.lt_of_lt_of_le inside sound)

/-- Copied bytes lie behind all that was in use. -/
theorem allocAs_spec {a : Arena} (sound : a.Sound) (length : Nat) (raw : Bytes) :
    a.Extends (roundUp raw.length) (a.allocAs length raw).2 ∧
      (a.allocAs length raw).2.Has a.used raw := by
  have room := alloc_extends sound raw.length
  have inside : a.used + raw.length ≤ (a.alloc raw.length).2.used :=
    Nat.add_le_add_left (le_roundUp raw.length) a.used
  have filled := store_fills room.sound inside
  exact ⟨room.fills_unused filled, filled.has⟩

/-- A region is a vector of bytes in memory, none of which is longer. -/
def maxCapacity : Nat := 2 ^ 63 - 1

/-- The arenas that a program can have. A region that cannot be had ends the program. -/
inductive Reachable : Arena → Prop where
  | withCapacity {capacity : Nat} (fits : capacity ≤ maxCapacity) :
      Reachable (withCapacity capacity)
  | step {a a' : Arena} (h : Reachable a) (step : Step a a') (fits : a'.capacity ≤ maxCapacity) :
      Reachable a'
  | reset {a : Arena} (h : Reachable a) : Reachable a.reset

theorem Step.capacity_le {a a' : Arena} (h : Step a a') : a.capacity ≤ a'.capacity := by
  cases h with
  | alloc size => exact (ensure_size (a.used + roundUp size) a).2
  | store offset raw => exact Nat.le_of_eq (overwrite_size ..).symm

theorem Step.used_le {a a' : Arena} (h : Step a a') : a.used ≤ a'.used := by
  cases h with
  | alloc size => exact Nat.le_add_right ..
  | store offset raw => exact Nat.le_refl _

/-- A step that ends within the region leaves its size alone. -/
theorem Step.capacity_eq {a a' : Arena} (h : Step a a') (fits : a'.used ≤ a.capacity) :
    a'.capacity = a.capacity := by
  cases h with
  | alloc size =>
      have same : a.ensure (a.used + roundUp size) = a := ensure_of_le fits
      have size : (a.ensure (a.used + roundUp size)).capacity = a.capacity := by rw [same]
      exact size
  | store offset raw => exact overwrite_size ..

theorem capacity_of_steps {a a' : Arena} (steps : Relation.ReflTransGen Step a a')
    (fits : a'.used ≤ a.capacity) : a'.capacity = a.capacity := by
  induction steps with
  | refl => rfl
  | tail _ step ih =>
      have before := ih (Nat.le_trans step.used_le fits)
      rw [← before] at fits ⊢
      exact step.capacity_eq fits

theorem Step.sound {a a' : Arena} (h : Step a a') (sound : a.Sound) : a'.Sound := by
  cases h with
  | alloc size => exact (alloc_extends sound size).sound
  | store offset raw => exact (store_grows sound offset raw).sound

namespace Reachable

theorem sound {a : Arena} (h : a.Reachable) : a.Sound := by
  induction h with
  | withCapacity fits => exact Nat.zero_le _
  | step h step fits ih => exact step.sound ih
  | reset h ih => exact Nat.zero_le _

theorem capacity_le {a : Arena} (h : a.Reachable) : a.capacity ≤ maxCapacity := by
  induction h with
  | withCapacity fits =>
      rw [capacity, Arena.withCapacity, Array.size_replicate]
      exact fits
  | step h step fits ih => exact fits
  | reset h ih => exact ih

theorem used_le {a : Arena} (h : a.Reachable) : a.used ≤ maxCapacity :=
  Nat.le_trans h.sound h.capacity_le

theorem of_steps {a a' : Arena} (h : a.Reachable) (steps : Relation.ReflTransGen Step a a')
    (fits : a'.capacity ≤ maxCapacity) : a'.Reachable := by
  induction steps with
  | refl => exact h
  -- Regions never shrink, so the last one bounds those in between.
  | tail _ step ih => exact .step (ih (Nat.le_trans step.capacity_le fits)) step fits

end Reachable
end SchemaWire.Arena

import Mathlib.Order.Bounds.Basic
import Mathlib.Order.CompletePartialOrder
import Mathlib.Order.Interval.Set.Disjoint
import SchemaWire.Proofs.Arena.Region
import SchemaWire.Proofs.Wire.View

/-!
An arena as an allocator. Blocks are taken in all the ways there are, with resets in between: the
blocks taken since the last reset share no byte, all of them lie in the part in use, and the region
grows by doubling, only when it has to.
-/
namespace SchemaWire

namespace Arena

theorem align_dvd_roundUp (size : Nat) : 8 ∣ roundUp size := Nat.dvd_mul_left 8 _

/-- Masking the low three bits of a word takes it down to a multiple of eight. -/
theorem land_mask (n : Nat) : n &&& (2 ^ 64 - 8) = n % 2 ^ 64 / 8 * 8 := by
  have high : (2 ^ 64 - 8 : Nat) = (2 ^ 61 - 1) <<< 3 := by decide
  have eight : (8 : Nat) = 2 ^ 3 := rfl
  apply Nat.eq_of_testBit_eq
  intro i
  rw [high, eight, ← Nat.shiftRight_eq_div_pow, ← Nat.shiftLeft_eq, Nat.testBit_and,
    Nat.testBit_shiftLeft, Nat.testBit_shiftLeft, Nat.testBit_shiftRight, Nat.testBit_mod_two_pow,
    Nat.testBit_two_pow_sub_one]
  by_cases low : 3 ≤ i
  · have place : 3 + (i - 3) = i := by omega
    have bounds : i - 3 < 61 ↔ i < 64 := by omega
    simp only [place, bounds, low, decide_true, Bool.true_and, Bool.and_comm]
  · simp only [low, decide_false, Bool.false_and, Bool.and_false]

/-- Rounding is done on 64-bit words by a mask, where it does not overflow. -/
theorem roundUp_eq_mask {size : Nat} (fits : size + 7 < 2 ^ 64) :
    roundUp size = (UInt64.ofNat (size + 7) &&& ~~~7).toNat := by
  have mask : (~~~7 : UInt64).toNat = 2 ^ 64 - 8 := by decide
  rw [UInt64.toNat_and, UInt64.toNat_ofNat_of_lt' fits, mask, land_mask, Nat.mod_eq_of_lt fits]
  rfl

/-- Doubling stops at the first multiple by a power of two that reaches the goal. -/
theorem doubled_eq (goal : Nat) {capacity : Nat} (positive : 0 < capacity) :
    ∃ k, doubled goal capacity = capacity * 2 ^ k ∧ IsLeast {k | goal ≤ capacity * 2 ^ k} k := by
  fun_induction doubled goal capacity with
  | case1 capacity below ih =>
      obtain ⟨k, reached, enough, least⟩ := ih (by omega)
      have shift (j : Nat) : capacity * 2 * 2 ^ j = capacity * 2 ^ (j + 1) := by
        rw [Nat.pow_succ', Nat.mul_assoc]
      refine ⟨k + 1, reached.trans (shift k), ?_, ?_⟩
      · change goal ≤ capacity * 2 ^ (k + 1)
        rw [← shift]
        exact enough
      · intro j hit
        change goal ≤ capacity * 2 ^ j at hit
        cases j with
        | zero => omega
        | succ j =>
            rw [← shift] at hit
            exact Nat.succ_le_succ (least hit)
  | case2 capacity reached =>
      have enough : goal ≤ capacity * 2 ^ 0 := by omega
      exact ⟨0, (Nat.mul_one capacity).symm, enough, fun _ _ => Nat.zero_le _⟩

/-- A region that is too small becomes as large as doubling makes it. -/
theorem ensure_of_lt {a : Arena} {goal : Nat} (short : a.capacity < goal) :
    ∃ k, (a.ensure goal).capacity = max a.capacity 64 * 2 ^ k ∧
      IsLeast {k | goal ≤ max a.capacity 64 * 2 ^ k} k := by
  have positive : 0 < max a.capacity 64 := Nat.lt_of_lt_of_le (by decide) (Nat.le_max_right ..)
  obtain ⟨k, reached, least⟩ := doubled_eq goal positive
  refine ⟨k, ?_, least⟩
  have larger : a.region.size ≤ max a.capacity 64 * 2 ^ k :=
    Nat.le_trans (Nat.le_of_lt short) least.1
  rw [← reached] at larger ⊢
  have outgrown : ¬ goal ≤ a.region.size := Nat.not_le_of_lt short
  rw [capacity, ensure, if_neg outgrown, Array.size_append, Array.size_replicate]
  exact Nat.add_sub_of_le larger

/-- The bytes of the region, and zeros behind them up to a capacity. -/
def grownTo (a : Arena) (capacity : Nat) : Bytes :=
  a.region.toList ++ List.replicate (capacity - a.capacity) 0

theorem toList_ensure (goal : Nat) (a : Arena) :
    (a.ensure goal).region.toList = a.grownTo (a.ensure goal).capacity := by
  rw [grownTo, capacity, capacity, ensure]
  split
  · rw [Nat.sub_self, List.replicate_zero, List.append_nil]
  · rw [Array.size_append, Array.size_replicate, Nat.add_sub_cancel_left, Array.toList_append,
      Array.toList_replicate]

theorem toList_overwrite {region : Array UInt8} {offset : Nat} {raw : Bytes}
    (fits : offset + raw.length ≤ region.size) :
    (overwrite region offset raw).toList =
      region.toList.take offset ++ raw ++ region.toList.drop (offset + raw.length) := by
  have front : (region.toList.take offset).length = offset :=
    List.length_take_of_le (by rw [Array.length_toList]; omega)
  apply List.ext_getElem?
  intro i
  rw [List.append_assoc, Array.getElem?_toList]
  rcases Nat.lt_or_ge i offset with before | within
  · rw [overwrite_getElem?_outside _ (.inl before), List.getElem?_append_left (by omega),
      List.getElem?_take_of_lt before, Array.getElem?_toList]
  · rw [List.getElem?_append_right (by omega), front]
    rcases Nat.lt_or_ge (i - offset) raw.length with inside | behind
    · have there := overwrite_getElem?_inside region fits inside
      rw [Nat.add_sub_of_le within] at there
      rw [there, List.getElem?_append_left inside]
    · rw [overwrite_getElem?_outside _ (.inr (by omega)), List.getElem?_append_right behind,
        List.getElem?_drop, Array.getElem?_toList]
      congr 1
      omega

/-- A piece of the region. -/
structure Block where
  offset : Nat
  size : Nat

def Block.positions (b : Block) : Set Nat := Set.Ico b.offset (b.offset + b.size)

end Arena

/-- The ways to take a block of an arena. All but the first copy bytes there. -/
inductive Allocation where
  | room (size : Nat)
  | bytes (raw : Bytes)
  | text (s : String)
  | packed (t : ScalarType) (xs : List t.Carrier)
  | view {t : ScalarType} (v : View t)

namespace Allocation

def size : Allocation → Nat
  | .room size => size
  | .bytes raw => raw.length
  | .text s => s.utf8ByteSize
  | .packed t xs => xs.length * t.size
  | .view v => v.bytes.length

def contents : Allocation → Bytes
  | .room _ => []
  | .bytes raw => raw
  | .text s => bytesOfText s
  | .packed t xs => xs.flatMap t.toBytes
  | .view v => v.bytes

/-- The offset that is returned, and the arena afterwards. -/
def perform : Allocation → Arena → Nat × Arena
  | .room size, a => a.alloc size
  | .bytes raw, a => ((a.allocBytes raw).1.offset, (a.allocBytes raw).2)
  | .text s, a => ((a.allocText s).1.offset, (a.allocText s).2)
  | .packed t xs, a => ((a.allocPacked t xs).1.offset, (a.allocPacked t xs).2)
  | .view v, a => ((a.allocView v).1.offset, (a.allocView v).2)

theorem length_contents_le (r : Allocation) : r.contents.length ≤ r.size := by
  cases r with
  | room size => exact Nat.zero_le _
  | bytes raw => exact Nat.le_refl _
  | text s => exact Nat.le_of_eq (bytesOfText_length s)
  | packed t xs => exact Nat.le_of_eq (length_flatMap_of_sized t.toBytes_length xs)
  | view v => exact Nat.le_refl _

/-- Every allocation makes room behind what is in use and copies its bytes there. -/
theorem perform_eq (r : Allocation) (a : Arena) :
    r.perform a = (a.used, (a.alloc r.size).2.store a.used r.contents) := by
  cases r with
  | room size => rfl
  | bytes raw => rfl
  | text s => rw [size, ← bytesOfText_length]; rfl
  | packed t xs => rw [size, ← length_flatMap_of_sized t.toBytes_length xs]; rfl
  | view v => rfl

variable (r : Allocation) (a : Arena)

/-- How much is in use afterwards. -/
def goal : Nat := a.used + Arena.roundUp r.size

theorem used_perform : (r.perform a).2.used = r.goal a := by
  rw [perform_eq]
  rfl

theorem capacity_perform : (r.perform a).2.capacity = (a.ensure (r.goal a)).capacity := by
  rw [perform_eq]
  exact Arena.overwrite_size ..

theorem end_le_goal : a.used + r.size ≤ r.goal a :=
  Nat.add_le_add_left (Arena.le_roundUp r.size) a.used

theorem goal_le_capacity : r.goal a ≤ (r.perform a).2.capacity := by
  rw [capacity_perform]
  exact (Arena.ensure_size (r.goal a) a).1

theorem capacity_le_perform : a.capacity ≤ (r.perform a).2.capacity := by
  rw [capacity_perform]
  exact (Arena.ensure_size (r.goal a) a).2

/-- What an allocation does to an arena. Its offset is aligned. The capacity changes only if the
rounded size does not fit, and then becomes the least sufficient multiple, by a power of two, of
what it was or of 64. Old bytes are kept and new ones are zero, but for those copied to the
block. -/
structure Granted : Prop where
  aligned : 8 ∣ (r.perform a).1
  used : (r.perform a).2.used = a.used + Arena.roundUp r.size
  rounded : r.size + 7 < 2 ^ 64 →
    Arena.roundUp r.size = (UInt64.ofNat (r.size + 7) &&& ~~~7).toNat
  kept : a.used + Arena.roundUp r.size ≤ a.capacity → (r.perform a).2.capacity = a.capacity
  grown : a.capacity < a.used + Arena.roundUp r.size →
    ∃ k, (r.perform a).2.capacity = max a.capacity 64 * 2 ^ k ∧
      IsLeast {k | a.used + Arena.roundUp r.size ≤ max a.capacity 64 * 2 ^ k} k
  bytes : (r.perform a).2.region.toList =
    (a.grownTo (r.perform a).2.capacity).take a.used ++ r.contents ++
      (a.grownTo (r.perform a).2.capacity).drop (a.used + r.contents.length)

theorem granted (aligned : 8 ∣ a.used) : r.Granted a where
  aligned := by
    rw [perform_eq]
    exact aligned
  used := r.used_perform a
  rounded := Arena.roundUp_eq_mask
  kept := by
    intro fits
    rw [capacity_perform, goal, Arena.ensure_of_le fits]
  grown := by
    intro short
    rw [capacity_perform]
    exact Arena.ensure_of_lt short
  bytes := by
    have room : a.used + r.contents.length ≤ (a.ensure (r.goal a)).region.size := by
      have copied := r.length_contents_le
      have inside := r.end_le_goal a
      have enough := (Arena.ensure_size (r.goal a) a).1
      omega
    rw [capacity_perform, ← Arena.toList_ensure, perform_eq]
    exact Arena.toList_overwrite room

end Allocation

/-- What a program does with an arena that it uses as an allocator. -/
inductive Action where
  | take (r : Allocation)
  | reset

/-- An arena and the blocks taken since the last reset, the latest first. -/
structure Ledger where
  arena : Arena
  blocks : List Arena.Block

namespace Ledger

def start (capacity : Nat) : Ledger := ⟨.withCapacity capacity, []⟩

def act (s : Ledger) : Action → Ledger
  | .take r => ⟨(r.perform s.arena).2, ⟨(r.perform s.arena).1, r.size⟩ :: s.blocks⟩
  | .reset => ⟨s.arena.reset, []⟩

def run (s : Ledger) (actions : List Action) : Ledger := actions.foldl act s

/-- The part in use is aligned and lies in the region, and the blocks lie apart in the part in
use. -/
structure Tidy (s : Ledger) : Prop where
  aligned : 8 ∣ s.arena.used
  within : s.arena.used ≤ s.arena.capacity
  apart : s.blocks.Pairwise fun b c => Disjoint b.positions c.positions
  below : ∀ b ∈ s.blocks, b.offset + b.size ≤ s.arena.used

theorem tidy_of_unused {a : Arena} (unused : a.used = 0) : Tidy ⟨a, []⟩ where
  aligned := unused ▸ Nat.dvd_zero 8
  within := unused ▸ Nat.zero_le _
  apart := .nil
  below _ member := absurd member List.not_mem_nil

theorem tidy_act {s : Ledger} (tidy : s.Tidy) (action : Action) : (s.act action).Tidy := by
  cases action with
  | reset => exact tidy_of_unused rfl
  | take r =>
      have used := r.used_perform s.arena
      have inside := r.end_le_goal s.arena
      have offset : (r.perform s.arena).1 = s.arena.used := by rw [r.perform_eq]
      refine ⟨?_, ?_, ?_, ?_⟩
      · rw [act, used]
        exact Nat.dvd_add tidy.aligned (Arena.align_dvd_roundUp r.size)
      · rw [act, used]
        exact r.goal_le_capacity s.arena
      · -- The new block starts where the part in use ended, behind all others.
        refine List.pairwise_cons.mpr ⟨fun b member => ?_, tidy.apart⟩
        have before := tidy.below b member
        rw [Arena.Block.positions, Arena.Block.positions, offset, Set.Ico_disjoint_Ico]
        exact Nat.le_trans (Nat.min_le_right ..) (Nat.le_trans before (Nat.le_max_left ..))
      · rw [act, used]
        refine List.forall_mem_cons.mpr ⟨?_, fun b member => ?_⟩
        · rw [offset]
          exact inside
        · exact Nat.le_trans (tidy.below b member) (Nat.le_add_right ..)

theorem tidy_run {s : Ledger} (tidy : s.Tidy) (actions : List Action) : (s.run actions).Tidy := by
  induction actions generalizing s with
  | nil => exact tidy
  | cons action rest ih => exact ih (tidy_act tidy action)

theorem run_append (s : Ledger) (first second : List Action) :
    s.run (first ++ second) = (s.run first).run second :=
  List.foldl_append

theorem capacity_le_run (s : Ledger) (actions : List Action) :
    s.arena.capacity ≤ (s.run actions).arena.capacity := by
  induction actions generalizing s with
  | nil => exact Nat.le_refl _
  | cons action rest ih =>
      have first : s.arena.capacity ≤ (s.act action).arena.capacity := by
        cases action with
        | reset => exact Nat.le_refl _
        | take r => exact r.capacity_le_perform s.arena
      exact Nat.le_trans first (ih (s.act action))

end Ledger

/-- After any actions the blocks taken since the last reset lie apart in the part in use, which is
aligned and lies in the region. Whatever is allocated next is granted, a reset keeps the region, and
the capacity never decreases. -/
theorem Arena.allocator_invariant (capacity : Nat) (actions : List Action) :
    ((Ledger.start capacity).run actions).Tidy ∧
      (∀ r : Allocation, r.Granted ((Ledger.start capacity).run actions).arena) ∧
      ((Ledger.start capacity).run actions).arena.reset.region =
        ((Ledger.start capacity).run actions).arena.region ∧
      ∀ later, ((Ledger.start capacity).run actions).arena.capacity ≤
        ((Ledger.start capacity).run (actions ++ later)).arena.capacity := by
  have tidy : ((Ledger.start capacity).run actions).Tidy :=
    Ledger.tidy_run (Ledger.tidy_of_unused rfl) actions
  refine ⟨tidy, fun r => r.granted _ tidy.aligned, rfl, fun later => ?_⟩
  rw [Ledger.run_append]
  exact Ledger.capacity_le_run _ later

/-- An empty block and the next one start at the same offset. -/
example :
    ((Ledger.start 0).run [.take (.text "ab"), .take (.room 0), .take (.bytes [7])]).blocks.map
      (·.offset) = [8, 8, 0] := by
  decide +kernel

end SchemaWire

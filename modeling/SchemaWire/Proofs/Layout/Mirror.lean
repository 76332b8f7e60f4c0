import Mathlib.Data.List.Forall2
import SchemaWire.Proofs.Arena.Region
import SchemaWire.Proofs.Layout.Record
import SchemaWire.Proofs.Wire.View

/-!
Decoders into arenas and plain decoders side by side. `Mirrors e d weight credit Stands` says that
`e` fails where and as `d` does, and otherwise stops where `d` does with a value that stands for
that of `d`. How much of the arena it uses depends on the input only, and is paid for by the bytes
it reads and by `credit` bytes read before.
-/
namespace SchemaWire

/-- The handle leads to these bytes, and its record holds it. -/
structure Handle.Leads (h : Handle) (b : Arena) (raw : Bytes) : Prop where
  fits : h.Fits
  fresh : h.generation = b.generation
  inside : h.offset + raw.length ≤ b.used
  has : b.Has h.offset raw

theorem Handle.Leads.block {h : Handle} {b : Arena} {raw : Bytes} (leads : h.Leads b raw)
    (width : Nat) (sized : raw.length = h.length * width) : b.block h width = .ok raw :=
  Arena.block_of_has leads.has leads.fresh sized leads.inside

/-- The handle of copied bytes leads to them wherever they are kept. -/
theorem Arena.allocAs_leads {a b : Arena} (sound : a.Sound) {length : Nat} {raw : Bytes}
    (short : length ≤ raw.length) (agrees : (a.allocAs length raw).2.Agrees a.used b)
    (small : (a.allocAs length raw).2.used < 2 ^ 64) :
    (a.allocAs length raw).1.Leads b raw := by
  obtain ⟨ext, has⟩ := Arena.allocAs_spec sound length raw
  have enough := Arena.le_roundUp raw.length
  have used := ext.used
  have within : a.used + raw.length ≤ (a.allocAs length raw).2.used := by omega
  refine ⟨⟨?_, ?_⟩, ?_, ?_, ?_⟩
  · show a.used < 2 ^ 64
    omega
  · show length < 2 ^ 64
    omega
  · exact (agrees.generation.trans ext.generation).symm
  · exact Nat.le_trans within agrees.used
  · exact agrees.has has (Nat.le_refl _) within

namespace ArenaDecode

/-- The decoder `e` does to the cursor what `d` does. From any arena of whose end offsets are words,
`Stands` holds of its result and that of `d` in all arenas that keep what it allocated. -/
structure Mirrors {α β : Type} (e : ArenaDecode β) (d : Decode α) (weight credit : Nat)
    (Stands : Arena → β → α → Prop) : Prop where
  ok : ∀ ⦃c c' : Cursor⦄ ⦃y : α⦄, d c = .ok y c' → ∃ n raw k, Cursor.Advance raw k c c' ∧
    n ≤ weight * (credit + raw.length) ∧ ∀ a : Arena, a.Sound →
      ∃ x a', e ⟨c, a⟩ = .ok x ⟨c', a'⟩ ∧ a.Extends n a' ∧
        (a'.used < 2 ^ 64 → ∀ b, a'.Agrees a.used b → Stands b x y)
  error : ∀ ⦃c c' : Cursor⦄ ⦃f : WireError⦄, d c = .error f c' → ∃ n, ∀ a : Arena, a.Sound →
    ∃ a', e ⟨c, a⟩ = .error f ⟨c', a'⟩ ∧ a.Extends n a'

variable {α β γ δ : Type} {weight credit : Nat}

theorem read_of_ok {d : Decode α} {c c' : Cursor} {x : α} (h : d c = .ok x c') (a : Arena) :
    read d ⟨c, a⟩ = .ok x ⟨c', a⟩ := by
  simp only [read, h]

theorem read_of_error {d : Decode α} {c c' : Cursor} {f : WireError} (h : d c = .error f c')
    (a : Arena) : read d ⟨c, a⟩ = .error f ⟨c', a⟩ := by
  simp only [read, h]

namespace Mirrors

variable {e : ArenaDecode β} {d : Decode α} {Q : Arena → β → α → Prop}

theorem imp {R : Arena → β → α → Prop} (h : Mirrors e d weight credit Q)
    (imp : ∀ b x y, Q b x y → R b x y) : Mirrors e d weight credit R where
  ok := by
    intro c c' y run
    obtain ⟨n, raw, k, adv, paid, from_any⟩ := h.ok run
    refine ⟨n, raw, k, adv, paid, ?_⟩
    intro a sound
    obtain ⟨x, a', run', ext, stands⟩ := from_any a sound
    exact ⟨x, a', run', ext, fun small b agrees => imp b x y (stands small b agrees)⟩
  error := h.error

/-- Bytes read before need not be spent. -/
theorem with_credit (h : Mirrors e d weight 0 Q) : Mirrors e d weight credit Q where
  ok := by
    intro c c' y run
    obtain ⟨n, raw, k, adv, paid, from_any⟩ := h.ok run
    refine ⟨n, raw, k, adv, Nat.le_trans paid (Nat.mul_le_mul_left _ ?_), from_any⟩
    exact Nat.add_le_add_right (Nat.zero_le _) _
  error := h.error

theorem pure {x : β} {y : α} (h : ∀ b, Q b x y) : Mirrors (pure x) (pure y) weight credit Q where
  ok := by
    intro c c' y' run
    cases run
    exact ⟨0, [], 0, .refl c, Nat.zero_le _, fun a sound =>
      ⟨x, a, rfl, .refl sound, fun _ b _ => h b⟩⟩
  error := by
    intro c c' f run
    cases run

theorem of_read {P : Bytes → Nat → α → Prop} (accepts : d.Accepts P) :
    Mirrors (read d) d weight credit fun _ x y => x = y where
  ok := by
    intro c c' y run
    obtain ⟨raw, k, adv, -⟩ := accepts run
    exact ⟨0, raw, k, adv, Nat.zero_le _, fun a sound =>
      ⟨y, a, read_of_ok run a, .refl sound, fun _ _ _ => rfl⟩⟩
  error := by
    intro c c' f run
    exact ⟨0, fun a sound => ⟨a, read_of_error run a, .refl sound⟩⟩

/-- What is read off the input first is the same on both sides and pays for what follows. -/
theorem read_bind {d : Decode γ} {P : Bytes → Nat → γ → Prop} {f : γ → ArenaDecode β}
    {g : γ → Decode α} (accepts : d.Accepts P)
    (h : ∀ raw k z, P raw k z → Mirrors (f z) (g z) weight (credit + raw.length) Q) :
    Mirrors (read d >>= f) (d >>= g) weight credit Q where
  ok := by
    intro c c'' y run
    obtain ⟨z, c', first, second⟩ := bind_eq_ok.mp run
    obtain ⟨raw, k, adv, holds⟩ := accepts first
    obtain ⟨n, raw', k', adv', paid, from_any⟩ := (h raw k z holds).ok second
    refine ⟨n, raw ++ raw', k + k', adv.trans adv', ?_, ?_⟩
    · rw [List.length_append, ← Nat.add_assoc]
      exact paid
    · intro a sound
      rw [bind_of_ok (read_of_ok first a)]
      exact from_any a sound
  error := by
    intro c c'' e run
    obtain first | ⟨z, c', first, second⟩ := bind_eq_error.mp run
    · exact ⟨0, fun a sound => ⟨a, bind_of_error (read_of_error first a), .refl sound⟩⟩
    · obtain ⟨raw, k, adv, holds⟩ := accepts first
      obtain ⟨n, from_any⟩ := (h raw k z holds).error second
      refine ⟨n, ?_⟩
      intro a sound
      rw [bind_of_ok (read_of_ok first a)]
      exact from_any a sound

/-- A failure is not undone by what would have followed. -/
theorem bind_error (h : Mirrors e d weight credit Q) {c c' : Cursor} {f : WireError}
    (failed : d c = .error f c') (next : β → ArenaDecode δ) :
    ∃ n, ∀ a : Arena, a.Sound →
      ∃ a', (e >>= next) ⟨c, a⟩ = .error f ⟨c', a'⟩ ∧ a.Extends n a' := by
  obtain ⟨n, from_any⟩ := h.error failed
  refine ⟨n, ?_⟩
  intro a sound
  obtain ⟨a', run, ext⟩ := from_any a sound
  exact ⟨a', bind_of_error run, ext⟩

theorem map (h : Mirrors e d weight credit Q) {R : Arena → δ → γ → Prop} (f : β → δ) (g : α → γ)
    (imp : ∀ b x y, Q b x y → R b (f x) (g y)) :
    Mirrors (do return f (← e)) (do return g (← d)) weight credit R where
  ok := by
    intro c c'' y run
    obtain ⟨z, c', first, second⟩ := bind_eq_ok.mp run
    cases second
    obtain ⟨n, raw, k, adv, paid, from_any⟩ := h.ok first
    refine ⟨n, raw, k, adv, paid, ?_⟩
    intro a sound
    obtain ⟨x, a', run', ext, stands⟩ := from_any a sound
    exact ⟨f x, a', bind_of_ok run', ext, fun small b agrees => imp b x z (stands small b agrees)⟩
  error := by
    intro c c'' err run
    obtain first | ⟨z, c', first, second⟩ := bind_eq_error.mp run
    · exact h.bind_error first _
    · cases second

/-- One after the other. What the first allocates is kept by the second. -/
theorem pair {e' : ArenaDecode δ} {d' : Decode γ} {R : Arena → δ → γ → Prop}
    (h : Mirrors e d weight credit Q) (h' : Mirrors e' d' weight 0 R) :
    Mirrors (do let x ← e; let z ← e'; return (x, z)) (do let y ← d; let w ← d'; return (y, w))
      weight credit fun b x y => Q b x.1 y.1 ∧ R b x.2 y.2 where
  ok := by
    intro c c'' yw run
    obtain ⟨y, c', first, rest⟩ := bind_eq_ok.mp run
    obtain ⟨w, c₂, second, last⟩ := bind_eq_ok.mp rest
    cases last
    obtain ⟨n, raw, k, adv, paid, from_any⟩ := h.ok first
    obtain ⟨n', raw', k', adv', paid', from_any'⟩ := h'.ok second
    refine ⟨n + n', raw ++ raw', k + k', adv.trans adv', ?_, ?_⟩
    · rw [List.length_append, ← Nat.add_assoc, Nat.mul_add]
      rw [Nat.zero_add] at paid'
      exact Nat.add_le_add paid paid'
    · intro a sound
      obtain ⟨x, a₁, run₁, ext₁, stands₁⟩ := from_any a sound
      obtain ⟨z, a₂, run₂, ext₂, stands₂⟩ := from_any' a₁ ext₁.sound
      refine ⟨(x, z), a₂, ?_, ext₁.trans ext₂, ?_⟩
      · rw [bind_of_ok run₁, bind_of_ok run₂]
        rfl
      · intro small b agrees
        -- What agrees with the last arena agrees with the one in between.
        have used₁ := ext₁.used
        have used₂ := ext₂.used
        exact ⟨stands₁ (by omega) b (ext₂.agrees agrees), stands₂ small b (agrees.mono (by omega))⟩
  error := by
    intro c c'' err run
    obtain first | ⟨y, c', first, rest⟩ := bind_eq_error.mp run
    · exact h.bind_error first _
    · obtain ⟨n, raw, k, adv, paid, from_any⟩ := h.ok first
      obtain second | ⟨w, c₂, second, last⟩ := bind_eq_error.mp rest
      · obtain ⟨n', from_any'⟩ := h'.error second
        refine ⟨n + n', ?_⟩
        intro a sound
        obtain ⟨x, a₁, run₁, ext₁, -⟩ := from_any a sound
        obtain ⟨a₂, run₂, ext₂⟩ := from_any' a₁ ext₁.sound
        refine ⟨a₂, ?_, ext₁.trans ext₂⟩
        rw [bind_of_ok run₁]
        exact bind_of_error run₂
      · cases last

/-- Bytes that were paid for are copied. -/
theorem allocAs {length : Nat} {raw : Bytes} {y : α} {Q : Arena → Handle → α → Prop}
    (short : length ≤ raw.length) (paid : raw.length + 7 ≤ weight * credit)
    (stands : ∀ b h, h.length = length → h.Leads b raw → Q b h y) :
    Mirrors (allocate (·.allocAs length raw)) (Pure.pure y) weight credit Q where
  ok := by
    intro c c' y' run
    cases run
    have rounded := Arena.roundUp_le raw.length
    refine ⟨Arena.roundUp raw.length, [], 0, .refl c, Nat.le_trans rounded paid, ?_⟩
    intro a sound
    obtain ⟨ext, -⟩ := Arena.allocAs_spec sound length raw
    refine ⟨(a.allocAs length raw).1, (a.allocAs length raw).2, rfl, ext, ?_⟩
    intro small b agrees
    exact stands b _ rfl (Arena.allocAs_leads sound short agrees small)
  error := by
    intro c c' f run
    cases run

section Records

variable (h : Mirrors e d weight 0 Q) {toBytes : β → Bytes} {width : Nat}
  (sized : ∀ x, (toBytes x).length = width)
include h sized

/-- One round of the loop that stores the records of a list. The record is written below `base`,
what the item allocates lies above it, and so neither disturbs the other. -/
theorem record_of_ok {c c' : Cursor} {y : α} (run : d c = .ok y c') :
    ∃ n raw k, Cursor.Advance raw k c c' ∧ n ≤ weight * raw.length ∧
      ∀ (a : Arena) (offset base : Nat), a.Sound → offset + width ≤ base → base ≤ a.used →
        ∃ x a', e ⟨c, a⟩ = .ok x ⟨c', a'⟩ ∧
          a.Fills offset (toBytes x) n (a'.store offset (toBytes x)) ∧
          (a'.used < 2 ^ 64 → ∀ b, (a'.store offset (toBytes x)).Agrees base b → Q b x y) := by
  obtain ⟨n, raw, k, adv, paid, from_any⟩ := h.ok run
  rw [Nat.zero_add] at paid
  refine ⟨n, raw, k, adv, paid, ?_⟩
  intro a offset base sound below used
  obtain ⟨x, a', run', ext, stands⟩ := from_any a sound
  have grown := ext.used
  have inside : offset + (toBytes x).length ≤ a'.used := by
    rw [sized]
    omega
  have filled := Arena.store_fills ext.sound inside
  refine ⟨x, a', run', ext.fills filled, ?_⟩
  intro small b agrees
  have kept := filled.agrees agrees (by rw [sized]; omega)
  exact stands small b (kept.mono used)

/-- The whole loop, when all items are read. -/
theorem records_of_ok {count : Nat} {done ys : List α} {c c' : Cursor}
    (run : Decode.times d count done c = .ok ys c') :
    ∃ n raw k, Cursor.Advance raw k c c' ∧ n ≤ weight * raw.length ∧
      ∀ (a : Arena) (offset base : Nat), a.Sound → offset + count * width ≤ base → base ≤ a.used →
        ∃ xs zs a', records e toBytes width count offset ⟨c, a⟩ = .ok () ⟨c', a'⟩ ∧
          ys = done.reverse ++ zs ∧ xs.length = count ∧
          a.Fills offset (xs.flatMap toBytes) n a' ∧
          (a'.used < 2 ^ 64 → ∀ b, a'.Agrees base b → List.Forall₂ (Q b) xs zs) := by
  induction count generalizing done c with
  | zero =>
      cases run
      refine ⟨0, [], 0, .refl _, Nat.zero_le _, ?_⟩
      intro a offset base sound _ _
      exact ⟨[], [], a, rfl, (List.append_nil _).symm, rfl, .refl sound offset, fun _ _ _ => .nil⟩
  | succ count ih =>
      rw [Decode.times] at run
      cases first : d c with
      | error f c₁ =>
          rw [first] at run
          cases run
      | ok y c₁ =>
          rw [first] at run
          obtain ⟨n, raw, k, adv, paid, from_any⟩ := h.record_of_ok sized first
          obtain ⟨m, raws, ks, advs, paids, from_anys⟩ := ih run
          refine ⟨n + m, raw ++ raws, k + ks, adv.trans advs, ?_, ?_⟩
          · rw [List.length_append, Nat.mul_add]
            exact Nat.add_le_add paid paids
          · intro a offset base sound below used
            rw [Nat.succ_mul] at below
            obtain ⟨x, a₁, run₁, filled, stands⟩ := from_any a offset base sound (by omega) used
            have grown := filled.used
            obtain ⟨xs, zs, a', run', listed, counted, fills, standss⟩ :=
              from_anys (a₁.store offset (toBytes x)) (offset + width) base filled.sound
                (by omega) (by omega)
            have length := length_flatMap_of_sized sized xs
            rw [counted] at length
            rw [← sized x] at fills
            refine ⟨x :: xs, y :: zs, a', ?_, ?_, congrArg Nat.succ counted, ?_, ?_⟩
            · rw [records]
              simp only [run₁, run']
            · rw [listed, List.reverse_cons, List.append_assoc, List.singleton_append]
            · rw [List.flatMap_cons]
              exact filled.trans fills (by rw [sized]; omega)
            · intro small b agrees
              -- The later records are written below what this item allocated.
              have before := fills.agrees agrees (by rw [sized, length]; omega)
              have last : a'.used = a₁.used + m := fills.used
              exact .cons (stands (by omega) b before) (standss small b agrees)

theorem records_of_error {count : Nat} {done : List α} {c c' : Cursor} {f : WireError}
    (run : Decode.times d count done c = .error f c') :
    ∃ n, ∀ (a : Arena) (offset base : Nat), a.Sound → offset + count * width ≤ base →
      base ≤ a.used → ∃ a', records e toBytes width count offset ⟨c, a⟩ = .error f ⟨c', a'⟩ ∧
        a.Grows n a' ∧ ∀ i < offset, a'.region[i]? = a.region[i]? := by
  induction count generalizing done c with
  | zero => cases run
  | succ count ih =>
      rw [Decode.times] at run
      cases first : d c with
      | error f₁ c₁ =>
          rw [first] at run
          cases run
          obtain ⟨n, from_any⟩ := h.error first
          refine ⟨n, ?_⟩
          intro a offset base sound below used
          obtain ⟨a', run', ext⟩ := from_any a sound
          refine ⟨a', ?_, ext.toGrows, fun i before => ext.bytes i (by omega)⟩
          rw [records]
          simp only [run']
      | ok y c₁ =>
          rw [first] at run
          obtain ⟨n, raw, k, adv, paid, from_any⟩ := h.record_of_ok sized first
          obtain ⟨m, from_anys⟩ := ih run
          refine ⟨n + m, ?_⟩
          intro a offset base sound below used
          rw [Nat.succ_mul] at below
          obtain ⟨x, a₁, run₁, filled, -⟩ := from_any a offset base sound (by omega) used
          have grown := filled.used
          obtain ⟨a', run', grows, bytes⟩ :=
            from_anys (a₁.store offset (toBytes x)) (offset + width) base filled.sound
              (by omega) (by omega)
          refine ⟨a', ?_, filled.toGrows.trans grows, ?_⟩
          · rw [records]
            simp only [run₁, run']
          · intro i before
            rw [bytes i (by omega), filled.bytes i (by omega) (.inl before)]

end Records

end Mirrors
end ArenaDecode
end SchemaWire

import SchemaWire.Proofs.Layout.Mirror

/-!
The loop that stores the records of a list, round by round. Each round writes one record below a
base line and leaves alone all that was allocated above it, whether or not a later one fails.
-/
namespace SchemaWire

namespace ArenaDecode

variable {α β : Type}

/-- The cursor and the arena that a decoder leaves, with a value or without. -/
def after (e : ArenaDecode α) (s : ArenaCursor) : ArenaCursor :=
  match e s with
  | .ok _ s' => s'
  | .error _ s' => s'

theorem after_of_ok {e : ArenaDecode α} {s s' : ArenaCursor} {x : α} (h : e s = .ok x s') :
    e.after s = s' := by
  rw [after, h]

theorem after_of_error {e : ArenaDecode α} {s s' : ArenaCursor} {f : WireError}
    (h : e s = .error f s') : e.after s = s' := by
  rw [after, h]

theorem after_bind {e : ArenaDecode α} {s s' : ArenaCursor} {x : α} (h : e s = .ok x s')
    (f : α → ArenaDecode β) : (e >>= f).after s = (f x).after s' := by
  rw [after, after, bind_of_ok h]

theorem after_map (e : ArenaDecode α) (f : α → β) (s : ArenaCursor) :
    after (do return f (← e)) s = e.after s := by
  cases run : e s with
  | ok x s' =>
      rw [after_bind run, after_of_ok run]
      rfl
  | error g s' => rw [after_of_error (bind_of_error run), after_of_error run]

theorem read_eq_ok {d : Decode α} {s s' : ArenaCursor} {x : α} (run : read d s = .ok x s') :
    d s.cursor = .ok x s'.cursor ∧ s'.arena = s.arena := by
  rw [read] at run
  split at run
  · next decoded =>
      cases run
      exact ⟨decoded, rfl⟩
  · cases run

/-- Whatever comes of it, the decoder leaves alone what was in use. -/
def Extending (e : ArenaDecode α) : Prop :=
  ∀ s : ArenaCursor, s.arena.Sound → ∃ n, s.arena.Extends n (e.after s).arena

theorem Mirrors.extending {e : ArenaDecode β} {d : Decode α} {weight credit : Nat}
    {Q : Arena → β → α → Prop} (h : Mirrors e d weight credit Q) : e.Extending := by
  rintro ⟨c, a⟩ sound
  cases run : d c with
  | ok y c' =>
      obtain ⟨n, _, _, -, -, from_any⟩ := h.ok run
      obtain ⟨x, a', run', ext, -⟩ := from_any a sound
      rw [after_of_ok run']
      exact ⟨n, ext⟩
  | error f c' =>
      obtain ⟨n, from_any⟩ := h.error run
      obtain ⟨a', run', ext⟩ := from_any a sound
      rw [after_of_error run']
      exact ⟨n, ext⟩

/-- A value read into an arena stands for one there. -/
theorem Mirrors.exists_stands {e : ArenaDecode β} {d : Decode α} {weight credit : Nat}
    {Q : Arena → β → α → Prop} (h : Mirrors e d weight credit Q) {s s' : ArenaCursor} {x : β}
    (sound : s.arena.Sound) (run : e s = .ok x s') (small : s'.arena.used < 2 ^ 64) :
    ∃ y, Q s'.arena x y := by
  obtain ⟨c, a⟩ := s
  cases decoded : d c with
  | ok y c' =>
      obtain ⟨n, _, _, -, -, from_any⟩ := h.ok decoded
      obtain ⟨x', a', run', -, stands⟩ := from_any a sound
      obtain ⟨rfl, rfl⟩ := EStateM.Result.ok.inj (run.symm.trans run')
      exact ⟨y, stands small _ (.refl _ _)⟩
  | error f c' =>
      obtain ⟨n, from_any⟩ := h.error decoded
      obtain ⟨a', run', -⟩ := from_any a sound
      cases run.symm.trans run'

/-- Some rounds of the loop that stores records, with the items read in them. -/
inductive Rounds (item : ArenaDecode α) (toBytes : α → Bytes) (width : Nat) :
    Nat → ArenaCursor → List α → ArenaCursor → Prop where
  | none (offset : Nat) (s : ArenaCursor) : Rounds item toBytes width offset s [] s
  | round {offset : Nat} {s s' : ArenaCursor} {c : Cursor} {a : Arena} {x : α} {xs : List α}
      (read : item s = .ok x ⟨c, a⟩)
      (rest : Rounds item toBytes width (offset + width) ⟨c, a.store offset (toBytes x)⟩ xs s') :
      Rounds item toBytes width offset s (x :: xs) s'

section Rounds

variable {item : ArenaDecode α} {toBytes : α → Bytes} {width : Nat}

/-- The loop goes on where the rounds left it. -/
theorem Rounds.records_eq {offset : Nat} {s s' : ArenaCursor} {xs : List α}
    (rounds : Rounds item toBytes width offset s xs s') (k : Nat) :
    records item toBytes width (xs.length + k) offset s =
      records item toBytes width k (offset + xs.length * width) s' := by
  induction rounds with
  | none offset s => rw [List.length_nil, Nat.zero_add, Nat.zero_mul, Nat.add_zero]
  | round read _ ih =>
      rw [List.length_cons, Nat.succ_add, records, Nat.succ_mul]
      simp only [read, ih]
      rw [Nat.add_assoc, Nat.add_comm width]

theorem Rounds.after_eq {offset : Nat} {s s' : ArenaCursor} {xs : List α}
    (rounds : Rounds item toBytes width offset s xs s') (k : Nat) :
    (records item toBytes width (xs.length + k) offset).after s =
      (records item toBytes width k (offset + xs.length * width)).after s' := by
  rw [after, after, rounds.records_eq]

theorem exists_rounds {count offset : Nat} {s s' : ArenaCursor}
    (run : records item toBytes width count offset s = .ok () s') :
    ∃ xs, xs.length = count ∧ Rounds item toBytes width offset s xs s' := by
  induction count generalizing offset s with
  | zero =>
      cases run
      exact ⟨[], rfl, .none offset _⟩
  | succ count ih =>
      rw [records] at run
      split at run
      · next x c a read =>
          obtain ⟨xs, counted, rest⟩ := ih run
          exact ⟨x :: xs, congrArg Nat.succ counted, .round read rest⟩
      · cases run

/-- Every item of the rounds was read behind fewer rounds. -/
theorem Rounds.read_of_mem {offset : Nat} {s s' : ArenaCursor} {xs : List α}
    (rounds : Rounds item toBytes width offset s xs s') {x : α} (member : x ∈ xs) :
    ∃ before t t', Rounds item toBytes width offset s before t ∧ before.length < xs.length ∧
      item t = .ok x t' := by
  induction rounds with
  | none => cases member
  | @round offset s s' c a y ys read rest ih =>
      rcases List.mem_cons.mp member with rfl | later
      · exact ⟨[], s, ⟨c, a⟩, .none offset s, Nat.succ_pos _, read⟩
      · obtain ⟨before, t, t', rounds, fewer, found⟩ := ih later
        exact ⟨y :: before, t, t', .round read rounds, Nat.succ_lt_succ fewer, found⟩

theorem records_after_of_ok {k offset : Nat} {s : ArenaCursor} {c : Cursor} {a : Arena} {x : α}
    (run : item s = .ok x ⟨c, a⟩) :
    (records item toBytes width (k + 1) offset).after s =
      (records item toBytes width k (offset + width)).after ⟨c, a.store offset (toBytes x)⟩ := by
  rw [after, records, run]
  rfl

theorem records_after_of_error {k offset : Nat} {s s' : ArenaCursor} {f : WireError}
    (run : item s = .error f s') :
    (records item toBytes width (k + 1) offset).after s = s' := by
  rw [after, records, run]

variable (extending : item.Extending) (sized : ∀ x, (toBytes x).length = width)
include extending sized

/-- One round leaves what was in use alone, but for the record it fills in. -/
theorem round_fills {offset : Nat} {s : ArenaCursor} {c : Cursor} {a : Arena} {x : α}
    (read : item s = .ok x ⟨c, a⟩) (sound : s.arena.Sound)
    (inside : offset + width ≤ s.arena.used) :
    ∃ n, s.arena.Extends n a ∧ a.Fills offset (toBytes x) 0 (a.store offset (toBytes x)) := by
  obtain ⟨n, ext⟩ := extending _ sound
  rw [after_of_ok read] at ext
  change s.arena.Extends n a at ext
  have grown := ext.used
  exact ⟨n, ext, Arena.store_fills ext.sound (by rw [sized]; omega)⟩

theorem Rounds.fills {offset : Nat} {s s' : ArenaCursor} {xs : List α}
    (rounds : Rounds item toBytes width offset s xs s') (sound : s.arena.Sound)
    (inside : offset + xs.length * width ≤ s.arena.used) :
    ∃ n, s.arena.Fills offset (xs.flatMap toBytes) n s'.arena := by
  induction rounds with
  | none offset s => exact ⟨0, .refl sound offset⟩
  | @round offset s s' c a x xs read _ ih =>
      rw [List.length_cons, Nat.succ_mul] at inside
      have room : offset + width ≤ s.arena.used := by omega
      obtain ⟨n, ext, stored⟩ := round_fills extending sized read sound room
      have grown := ext.used
      have room' : offset + width + xs.length * width ≤ a.used := by omega
      obtain ⟨m, later⟩ := ih stored.sound room'
      rw [← sized x] at later room
      exact ⟨_, (ext.fills stored).trans later room⟩

/-- What holds of every item that is read within the words holds of all items of the rounds. -/
theorem Rounds.forall_mem {P : α → Prop} {offset : Nat} {s s' : ArenaCursor} {xs : List α}
    (rounds : Rounds item toBytes width offset s xs s') (sound : s.arena.Sound)
    (inside : offset + xs.length * width ≤ s.arena.used) (small : s'.arena.used < 2 ^ 64)
    (each : ∀ ⦃s s' : ArenaCursor⦄ ⦃x : α⦄, s.arena.Sound → item s = .ok x s' →
      s'.arena.used < 2 ^ 64 → P x) : ∀ x ∈ xs, P x := by
  induction rounds with
  | none => exact fun _ member => absurd member List.not_mem_nil
  | @round offset s s' c a x xs read rest ih =>
      rw [List.length_cons, Nat.succ_mul] at inside
      have record : offset + width ≤ s.arena.used := by omega
      obtain ⟨n, ext, stored⟩ := round_fills extending sized read sound record
      have grown := ext.used
      have room : offset + width + xs.length * width ≤ a.used := by omega
      obtain ⟨m, later⟩ := rest.fills extending sized stored.sound room
      have used : s'.arena.used = a.used + m := later.used
      have small' : a.used < 2 ^ 64 := by omega
      exact List.forall_mem_cons.mpr ⟨each sound read small', ih stored.sound room small⟩

/-- What an item of the loop allocates is kept, if later rounds keep what lies above `base`. -/
theorem item_agrees {k offset base : Nat} {s : ArenaCursor} (sound : s.arena.Sound)
    (below : offset + width ≤ base) (used : base ≤ s.arena.used)
    (later : ∀ t : ArenaCursor, t.arena.Sound → base ≤ t.arena.used →
      t.arena.Agrees base ((records item toBytes width k (offset + width)).after t).arena) :
    (item.after s).arena.Agrees base
      ((records item toBytes width (k + 1) offset).after s).arena := by
  cases run : item s with
  | error f s' =>
      rw [after_of_error run, records_after_of_error run]
      exact .refl _ _
  | ok x s' =>
      obtain ⟨c, a⟩ := s'
      obtain ⟨n, ext, stored⟩ := round_fills extending sized run sound (Nat.le_trans below used)
      have grown := ext.used
      have above : base ≤ a.used := by omega
      rw [after_of_ok run, records_after_of_ok run]
      rw [← sized x] at below
      exact stored.agrees (later ⟨c, a.store offset (toBytes x)⟩ stored.sound above) below

/-- The loop writes below `base` and behind what is in use. -/
theorem records_agrees {count offset base : Nat} {s : ArenaCursor} (sound : s.arena.Sound)
    (below : offset + count * width ≤ base) (used : base ≤ s.arena.used) :
    s.arena.Agrees base ((records item toBytes width count offset).after s).arena := by
  induction count generalizing offset s with
  | zero => exact .refl _ _
  | succ count ih =>
      rw [Nat.succ_mul] at below
      obtain ⟨n, ext⟩ := extending _ sound
      refine ext.agrees (item_agrees extending sized sound (by omega) used ?_)
      intro t sound used
      exact ih sound (by omega) used

end Rounds
end ArenaDecode

end SchemaWire

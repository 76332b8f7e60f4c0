import SchemaWire.Proofs.Wire.Reading

/-!
Decoders that know where a value ends. What such a decoder read, it reads again off the same bytes
whatever follows them; and when the bytes are cut off anywhere, the end of the input is what it
reports, before any other fault.
-/
namespace SchemaWire

theorem Cursor.Advance.size_eq {raw : Bytes} {k : Nat} {c c' : Cursor} (h : Advance raw k c c') :
    c'.size = c.size := by
  rw [Cursor.size, Cursor.size, Cursor.remaining, Cursor.remaining, h.rest_length, h.index,
    Nat.add_assoc]

namespace Decode

variable {α β : Type} {m n k k' : Nat} {raw raw' : Bytes} {a : α}

/-- At an input that stops inside `raw`, the decoder runs out of input. -/
def Truncates (d : Decode α) (raw : Bytes) (k : Nat) : Prop :=
  ∀ ⦃c : Cursor⦄, c.rest <+: raw → c.rest.length < raw.length →
    c.elements + k ≤ maxTotalElements → ∃ needed c', d c = .error (.unexpectedEnd needed c.size) c'

theorem truncates_nil (d : Decode α) (k : Nat) : Truncates d [] k :=
  fun _ _ shorter _ => absurd shorter (Nat.not_lt_zero _)

theorem truncates_bytes (raw : Bytes) : Truncates (bytes raw.length) raw 0 := by
  intro c _ shorter _
  exact ⟨_, _, bytes_of_lt shorter⟩

theorem Truncates.bind {d : Decode α} {f : α → Decode β} (reads : Reads d raw k a)
    (first : Truncates d raw k) (second : Truncates (f a) raw' k') :
    Truncates (d >>= f) (raw ++ raw') (k + k') := by
  intro c inside shorter within
  rcases Nat.lt_or_ge c.rest.length raw.length with early | late
  · have front : c.rest <+: raw :=
      List.prefix_of_prefix_length_le inside (List.prefix_append raw raw') (Nat.le_of_lt early)
    obtain ⟨needed, c', failed⟩ := first front early (by omega)
    exact ⟨needed, c', bind_of_error failed⟩
  · -- The input stops behind the bytes of the first decoder, which therefore succeeds.
    obtain ⟨rest, whole⟩ := List.prefix_of_prefix_length_le (List.prefix_append raw raw') inside late
    have adv : Cursor.Advance raw k c ⟨rest, c.index + raw.length, c.elements + k⟩ :=
      ⟨whole.symm, rfl, rfl⟩
    rw [← whole] at inside shorter
    rw [List.length_append, List.length_append] at shorter
    obtain ⟨needed, c', failed⟩ := second (c := ⟨rest, c.index + raw.length, c.elements + k⟩)
      ((List.prefix_append_right_inj raw).mp inside) (Nat.lt_of_add_lt_add_left shorter)
      (by rw [Nat.add_assoc]; exact within)
    refine ⟨needed, c', ?_⟩
    rw [bind_of_ok (reads adv (by simp only; omega)), failed, adv.size_eq]

theorem of_expect {d : Decode α} {c c' : Cursor}
    (run : (do expect n; d : Decode α) c = .ok a c') : d c = .ok a c' := by
  obtain ⟨_, _, asked, rest⟩ := bind_eq_ok.mp run
  obtain ⟨_, _, unmoved, rfl, rfl⟩ := accepts_expect n asked
  rwa [unmoved.unique (.refl c)] at rest

/-- The decoder finds the end of what it reads by itself. It takes at least that many bytes, and
keeps the limit on array elements. -/
structure Delimits (least : Nat) (d : Decode α) : Prop where
  accepts : Accepts d fun raw k a => Reads d raw k a ∧ Truncates d raw k ∧ least ≤ raw.length
  within : ∀ ⦃c c' : Cursor⦄ ⦃a : α⦄, d c = .ok a c' → c.elements ≤ maxTotalElements →
    c'.elements ≤ maxTotalElements

namespace Delimits

theorem mono {d : Decode α} (h : Delimits m d) (fewer : n ≤ m) :
    Delimits n d where
  accepts := h.accepts.imp fun _ _ _ ⟨reads, truncates, enough⟩ =>
    ⟨reads, truncates, Nat.le_trans fewer enough⟩
  within := h.within

protected theorem throw (e : WireError) : Delimits m (throw e : Decode α) where
  accepts := by intro c c' a run; cases run
  within := by intro c c' a run; cases run

protected theorem pure (a : α) : Delimits 0 (pure a : Decode α) where
  accepts := .pure ⟨.pure a, truncates_nil _ 0, Nat.zero_le _⟩
  within := by
    intro c c' _ run within
    cases run
    exact within

theorem bind {d : Decode α} {f : α → Decode β} (h : Delimits m d)
    (h' : ∀ a, Delimits n (f a)) : Delimits (m + n) (d >>= f) where
  accepts := by
    refine h.accepts.bind (fun a => (h' a).accepts) ?_
    rintro raw k a raw' k' b ⟨reads, truncates, enough⟩ ⟨reads', truncates', enough'⟩
    refine ⟨reads.bind reads', .bind reads truncates truncates', ?_⟩
    rw [List.length_append]
    exact Nat.add_le_add enough enough'
  within := by
    intro c c'' b run start
    obtain ⟨a, c', first, second⟩ := bind_eq_ok.mp run
    exact (h' a).within second (h.within first start)

theorem map {d : Decode α} (h : Delimits m d) (f : α → β) :
    Delimits m (do return f (← d)) :=
  h.bind fun a => .pure (f a)

/-- Asking first whether enough bytes are left changes nothing, where that many are read. -/
theorem expect {d : Decode α} (h : Delimits n d) : Delimits n (do Decode.expect n; d) where
  accepts := by
    intro c c' a run
    obtain ⟨raw, k, adv, reads, truncates, enough⟩ := h.accepts (of_expect run)
    refine ⟨raw, k, adv, ?_, ?_, enough⟩
    · intro e e' moved within
      have there : n ≤ e.rest.length := by
        rw [moved.rest_length]
        omega
      rw [bind_of_ok (expect_of_le there)]
      exact reads moved within
    · intro e inside shorter within
      rcases Nat.lt_or_ge e.rest.length n with short | there
      · exact ⟨_, _, bind_of_error (expect_of_lt short)⟩
      · rw [bind_of_ok (expect_of_le there)]
        exact truncates inside shorter within
  within := fun _ _ _ run => h.within (of_expect run)

end Delimits

theorem delimits_bytes (n : Nat) : Delimits n (bytes n) where
  accepts := by
    refine (accepts_bytes n).imp ?_
    rintro _ _ raw ⟨rfl, rfl, rfl⟩
    exact ⟨reads_bytes raw, truncates_bytes raw, Nat.le_refl _⟩
  within := by
    intro c c' a run start
    obtain ⟨_, _, adv, -, rfl, -⟩ := accepts_bytes n run
    rw [adv.elements]
    exact start

theorem delimits_ofExcept (r : Except WireError α) : Delimits 0 (ofExcept r) := by
  cases r with
  | ok a => exact .pure a
  | error e => exact .throw e

theorem delimits_scalar (t : ScalarType) : Delimits t.size (scalar t) :=
  (delimits_bytes t.size).bind fun raw => (delimits_ofExcept (t.check raw)).bind fun _ => .pure _

theorem delimits_length : Delimits 4 length := (delimits_scalar (.word .u32)).map _

theorem delimits_text : Delimits 4 text := by
  refine delimits_length.bind (n := 0) fun n => ?_
  refine ((delimits_bytes n).bind (n := 0) fun raw => ?_).mono (Nat.zero_le _)
  cases textOfBytes? raw with
  | some s => exact .pure s
  | none => exact .throw .invalidUtf8

theorem delimits_tally (n : Nat) : Delimits 0 (tally n) where
  accepts := by
    refine (accepts_tally n).imp ?_
    rintro _ _ _ ⟨rfl, rfl, rfl, small⟩
    exact ⟨reads_tally small, truncates_nil _ _, Nat.zero_le _⟩
  within := by
    intro c c' m run _
    unfold tally at run
    split at run
    · cases run
    · dsimp only at run
      split at run
      · cases run
      · cases run
        exact Nat.le_of_not_lt ‹_›

theorem delimits_count : Delimits 4 count := delimits_length.bind delimits_tally

theorem times_succ (item : Decode α) (n : Nat) (done : List α) :
    times item (n + 1) done = item >>= fun a => times item n (a :: done) := by
  funext c
  change _ = EStateM.bind item _ c
  rw [times, EStateM.bind]
  cases item c <;> rfl

theorem delimits_times {item : Decode α} (h : Delimits 1 item) (n : Nat) (done : List α) :
    Delimits n (times item n done) := by
  induction n generalizing done with
  | zero => exact .pure done.reverse
  | succ n ih =>
      rw [times_succ, Nat.add_comm]
      exact h.bind fun a => ih (a :: done)

theorem delimits_list {item : Decode α} (h : Delimits 1 item) : Delimits 4 (list item) :=
  delimits_count.bind (n := 0) fun n =>
    (delimits_times h n []).expect.mono (Nat.zero_le n)

theorem delimits_option {item : Decode α} (h : Delimits m item) :
    Delimits 1 (option item) := by
  refine (delimits_scalar .bool).bind (n := 0) fun present => ?_
  cases present with
  | false => exact .pure none
  | true => exact (h.map some).mono (Nat.zero_le _)

end Decode
end SchemaWire

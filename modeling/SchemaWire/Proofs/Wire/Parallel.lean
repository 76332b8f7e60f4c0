import Mathlib.Data.List.Forall2
import SchemaWire.Proofs.Wire.View

/-!
Decoders side by side. `Parallel d d' R` says that `d'` succeeds exactly where `d` does, with a
related value and the same cursor, and that their errors are alike. Reading a fixed-width array at
once and reading it element by element are parallel.
-/
namespace SchemaWire

/-- The same error, except that the number of bytes needed may differ. -/
inductive WireError.Alike : WireError → WireError → Prop where
  | refl (e : WireError) : Alike e e
  | unexpectedEnd (needed needed' available : Nat) :
      Alike (.unexpectedEnd needed available) (.unexpectedEnd needed' available)

theorem WireError.Alike.trans {e e' e'' : WireError} (h : e.Alike e') (h' : e'.Alike e'') :
    e.Alike e'' := by
  cases h with
  | refl => exact h'
  | unexpectedEnd needed needed' available =>
      cases h' with
      | refl => exact .unexpectedEnd ..
      | unexpectedEnd => exact .unexpectedEnd ..

namespace Decode

structure Parallel {α β : Type} (d : Decode α) (d' : Decode β) (R : α → β → Prop) : Prop where
  ok : ∀ ⦃c c' : Cursor⦄ ⦃a : α⦄, d c = .ok a c' → ∃ b, d' c = .ok b c' ∧ R a b
  error : ∀ ⦃c c' : Cursor⦄ ⦃e : WireError⦄, d c = .error e c' →
    ∃ e' c'', d' c = .error e' c'' ∧ e.Alike e'

namespace Parallel

variable {α β γ δ : Type} {d : Decode α} {d' : Decode β} {R : α → β → Prop}

theorem of_forall (h : ∀ c, (∃ a b c', d c = .ok a c' ∧ d' c = .ok b c' ∧ R a b) ∨
    ∃ e e' c' c'', d c = .error e c' ∧ d' c = .error e' c'' ∧ e.Alike e') : Parallel d d' R where
  ok := by
    intro c c' a run
    obtain ⟨a', b, c₁, first, second, related⟩ | ⟨e, e', c₁, c₂, first, -⟩ := h c
    · cases first.symm.trans run
      exact ⟨b, second, related⟩
    · cases first.symm.trans run
  error := by
    intro c c' f run
    obtain ⟨a', b, c₁, first, -⟩ | ⟨e, e', c₁, c₂, first, second, alike⟩ := h c
    · cases first.symm.trans run
    · cases first.symm.trans run
      exact ⟨e', c₂, second, alike⟩

theorem refl (d : Decode α) : Parallel d d Eq where
  ok _ _ a run := ⟨a, run, rfl⟩
  error _ c' e run := ⟨e, c', run, .refl e⟩

theorem pure {a : α} {b : β} (h : R a b) : Parallel (pure a) (pure b) R where
  ok := by
    intro c c' a' run
    cases run
    exact ⟨b, rfl, h⟩
  error := by
    intro c c' e run
    cases run

theorem bind {f : α → Decode γ} {g : β → Decode δ} {S : γ → δ → Prop} (h : Parallel d d' R)
    (h' : ∀ a b, R a b → Parallel (f a) (g b) S) : Parallel (d >>= f) (d' >>= g) S where
  ok := by
    intro c c'' z run
    obtain ⟨a, c', first, second⟩ := bind_eq_ok.mp run
    obtain ⟨b, first', related⟩ := h.ok first
    obtain ⟨w, second', relateds⟩ := (h' a b related).ok second
    exact ⟨w, bind_eq_ok.mpr ⟨b, c', first', second'⟩, relateds⟩
  error := by
    intro c c'' e run
    obtain first | ⟨a, c', first, second⟩ := bind_eq_error.mp run
    · obtain ⟨e', c₁, first', alike⟩ := h.error first
      exact ⟨e', c₁, bind_eq_error.mpr (.inl first'), alike⟩
    · obtain ⟨b, first', related⟩ := h.ok first
      obtain ⟨e', c₁, second', alike⟩ := (h' a b related).error second
      exact ⟨e', c₁, bind_eq_error.mpr (.inr ⟨b, c', first', second'⟩), alike⟩

theorem map {S : γ → δ → Prop} (h : Parallel d d' R) (f : α → γ) (g : β → δ)
    (imp : ∀ a b, R a b → S (f a) (g b)) :
    Parallel (do return f (← d)) (do return g (← d')) S :=
  h.bind fun a b related => pure (imp a b related)

theorem map_right {S : α → δ → Prop} (h : Parallel d d' R) (g : β → δ)
    (imp : ∀ a b, R a b → S a (g b)) : Parallel d (do return g (← d')) S := by
  have mapped := h.map id g imp
  simp only [id_eq, bind_pure] at mapped
  exact mapped

/-- Decoders with equal values may stand in for one another. -/
theorem trans {d'' : Decode γ} {d : Decode β} {S : β → γ → Prop} (h : Parallel d d' Eq)
    (h' : Parallel d' d'' S) : Parallel d d'' S where
  ok := by
    intro c c' a run
    obtain ⟨_, run', rfl⟩ := h.ok run
    exact h'.ok run'
  error := by
    intro c c' e run
    obtain ⟨e', c₁, run', alike⟩ := h.error run
    obtain ⟨e'', c₂, run'', alike'⟩ := h'.error run'
    exact ⟨e'', c₂, run'', alike.trans alike'⟩

theorem times (h : Parallel d d' R) (count : Nat) {done : List α} {done' : List β}
    (earlier : List.Forall₂ R done done') :
    Parallel (times d count done) (times d' count done') (List.Forall₂ R) := by
  induction count generalizing done done' with
  | zero => exact pure (List.rel_reverse earlier)
  | succ count ih =>
      constructor
      · intro c c'' as run
        rw [Decode.times] at run
        cases first : d c with
        | error e c' =>
            rw [first] at run
            cases run
        | ok a c' =>
            rw [first] at run
            obtain ⟨b, first', related⟩ := h.ok first
            rw [Decode.times, first']
            exact (ih (.cons related earlier)).ok run
      · intro c c'' e run
        rw [Decode.times] at run
        cases first : d c with
        | error e c' =>
            rw [first] at run
            cases run
            obtain ⟨e', c₁, first', alike⟩ := h.error first
            rw [Decode.times, first']
            exact ⟨e', c₁, rfl, alike⟩
        | ok a c' =>
            rw [first] at run
            obtain ⟨b, first', related⟩ := h.ok first
            rw [Decode.times, first']
            exact (ih (.cons related earlier)).error run

theorem list (h : Parallel d d' R) : Parallel (list d) (list d') (List.Forall₂ R) := by
  refine (refl count).bind ?_
  rintro n _ rfl
  exact (refl (expect n)).bind fun _ _ _ => h.times n .nil

theorem option (h : Parallel d d' R) : Parallel (option d) (option d') (Option.Rel R) := by
  refine (refl (scalar .bool)).bind ?_
  rintro present _ rfl
  cases present with
  | false => exact pure .none
  | true => exact h.map some some fun a b related => .some related

end Parallel

section Elements

variable {t : ScalarType} {raw tail : Bytes} {index elements : Nat}

theorem scalar_of_ok (enough : t.size ≤ raw.length) (checked : t.check (raw.take t.size) = .ok ()) :
    scalar t ⟨raw ++ tail, index, elements⟩ =
      .ok (t.ofBytes (raw.take t.size)) ⟨raw.drop t.size ++ tail, index + t.size, elements⟩ := by
  have long : t.size ≤ (raw ++ tail).length := by
    rw [List.length_append]
    omega
  rw [scalar, bind_of_ok (bytes_of_le long)]
  simp only [List.take_append_of_le_length enough, List.drop_append_of_le_length enough, checked]
  rfl

theorem scalar_of_error (enough : t.size ≤ raw.length) {e : WireError}
    (checked : t.check (raw.take t.size) = .error e) :
    scalar t ⟨raw ++ tail, index, elements⟩ =
      .error e ⟨raw.drop t.size ++ tail, index + t.size, elements⟩ := by
  have long : t.size ≤ (raw ++ tail).length := by
    rw [List.length_append]
    omega
  rw [scalar, bind_of_ok (bytes_of_le long)]
  simp only [List.take_append_of_le_length enough, List.drop_append_of_le_length enough, checked]
  rfl

/-- Elements that all pass their check are read one by one. -/
theorem times_scalar_of_ok {count : Nat} (sized : raw.length = count * t.size)
    (checked : View.checkElements t count raw = .ok ()) (done : List t.Carrier) :
    times (scalar t) count done ⟨raw ++ tail, index, elements⟩ =
      .ok (done.reverse ++ (blocks t.size count raw []).map t.ofBytes)
        ⟨tail, index + count * t.size, elements⟩ := by
  induction count generalizing raw index done with
  | zero =>
      rw [Nat.zero_mul, List.length_eq_zero_iff] at sized
      rw [sized, times, Nat.zero_mul]
      simp only [blocks, List.reverse_nil, List.map_nil, List.append_nil, List.nil_append,
        Nat.add_zero]
  | succ count ih =>
      rw [Nat.succ_mul] at sized
      have enough : t.size ≤ raw.length := by omega
      have shorter : (raw.drop t.size).length = count * t.size := by
        rw [List.length_drop]
        omega
      rw [View.checkElements] at checked
      cases first : t.check (raw.take t.size) with
      | error e =>
          rw [first] at checked
          cases checked
      | ok =>
          rw [first] at checked
          rw [times, scalar_of_ok enough first, blocks, blocks_append]
          simp only [ih shorter checked, List.reverse_cons, List.reverse_nil, List.nil_append,
            List.append_assoc, List.singleton_append, List.map_cons, Nat.succ_mul]
          rw [Nat.add_assoc, Nat.add_comm t.size]

/-- The first element that fails its check ends both ways of reading. -/
theorem times_scalar_of_error {count : Nat} (sized : raw.length = count * t.size) {e : WireError}
    (checked : View.checkElements t count raw = .error e) (done : List t.Carrier) :
    ∃ c', times (scalar t) count done ⟨raw ++ tail, index, elements⟩ = .error e c' := by
  induction count generalizing raw index done with
  | zero => cases checked
  | succ count ih =>
      rw [Nat.succ_mul] at sized
      have enough : t.size ≤ raw.length := by omega
      have shorter : (raw.drop t.size).length = count * t.size := by
        rw [List.length_drop]
        omega
      rw [View.checkElements] at checked
      cases first : t.check (raw.take t.size) with
      | error f =>
          rw [first] at checked
          cases checked
          rw [times, scalar_of_error enough first]
          exact ⟨_, rfl⟩
      | ok =>
          rw [first] at checked
          rw [times, scalar_of_ok enough first]
          exact ih shorter checked _

/-- Words are never refused, so an array of them that is cut short ends with the input. -/
theorem times_word_of_lt {w : WordType} {count : Nat} {c : Cursor}
    (short : c.rest.length < count * w.size) (done : List (BitVec (8 * w.size))) :
    ∃ needed c', times (scalar (.word w)) count done c =
      .error (.unexpectedEnd needed c.size) c' := by
  induction count generalizing c done with
  | zero => exact absurd short (by rw [Nat.zero_mul]; exact Nat.not_lt_zero _)
  | succ count ih =>
      rw [times]
      rcases Nat.lt_or_ge c.rest.length w.size with little | enough
      · have failed : scalar (.word w) c =
            .error (.unexpectedEnd (position (c.index + w.size)) c.size) c :=
          bind_of_error (bytes_of_lt little)
        rw [failed]
        exact ⟨_, _, rfl⟩
      · have read : scalar (.word w) c = .ok (ScalarType.ofBytes (.word w) (c.rest.take w.size))
            { c with rest := c.rest.drop w.size, index := c.index + w.size } :=
          bind_of_ok (bytes_of_le enough)
        have same : ({ c with rest := c.rest.drop w.size, index := c.index + w.size } :
            Cursor).size = c.size := by
          simp only [Cursor.size, Cursor.remaining, List.length_drop]
          omega
        rw [read, ← same]
        apply ih
        rw [Nat.succ_mul] at short
        rw [List.length_drop]
        omega

/-- The elements of an array at once: all bytes first, then their checks. -/
def bulk (t : ScalarType) (count : Nat) : Decode (List t.Carrier) := do
  let raw ← bytes (count * t.size)
  let v ← ofExcept (View.ofBytes t raw)
  return v.toList

theorem packed_eq (t : ScalarType) : packed t = count >>= bulk t := by
  simp only [packed, view, bind_assoc]
  rfl

theorem bulk_of_lt {count : Nat} {c : Cursor} (short : c.rest.length < count * t.size) :
    bulk t count c =
      .error (.unexpectedEnd (position (c.index + count * t.size)) c.size) c := by
  rw [bulk, bind_of_error (bytes_of_lt short)]

theorem bulk_append {count : Nat} (sized : raw.length = count * t.size) :
    bulk t count ⟨raw ++ tail, index, elements⟩ =
      match View.checkElements t count raw with
      | .ok () => .ok ((blocks t.size count raw []).map t.ofBytes)
          ⟨tail, index + count * t.size, elements⟩
      | .error e => .error e ⟨tail, index + count * t.size, elements⟩ := by
  have read : bytes (count * t.size) ⟨raw ++ tail, index, elements⟩ =
      .ok raw ⟨tail, index + count * t.size, elements⟩ := by
    rw [← sized, bytes_of_le (by rw [List.length_append]; omega)]
    simp only [List.take_left, List.drop_left]
  have counted : (⟨raw⟩ : View t).length = count := by
    rw [View.length, sized, Nat.mul_div_cancel _ t.size_pos]
  rw [bulk, bind_of_ok read, View.ofBytes_of_sized sized]
  cases View.checkElements t count raw with
  | ok =>
      rw [← counted]
      rfl
  | error e => rfl

theorem parallel_bulk_of_le {t : ScalarType} {count : Nat} {c : Cursor}
    (enough : count * t.size ≤ c.rest.length) :
    (∃ xs c', bulk t count c = .ok xs c' ∧ times (scalar t) count [] c = .ok xs c') ∨
      ∃ e c' c'', bulk t count c = .error e c' ∧ times (scalar t) count [] c = .error e c'' := by
  obtain ⟨rest, index, elements⟩ := c
  have sized : (rest.take (count * t.size)).length = count * t.size := List.length_take_of_le enough
  rw [← List.take_append_drop (count * t.size) rest, bulk_append sized]
  cases checked : View.checkElements t count (rest.take (count * t.size)) with
  | ok => exact .inl ⟨_, _, rfl, times_scalar_of_ok sized checked []⟩
  | error e =>
      obtain ⟨c', failed⟩ := times_scalar_of_error sized checked []
      exact .inr ⟨e, _, c', rfl, failed⟩

theorem parallel_bulk_of_lt {t : ScalarType} {count : Nat} {c : Cursor}
    (short : c.rest.length < count * t.size) (enough : count ≤ c.rest.length) :
    ∃ needed c', times (scalar t) count [] c = .error (.unexpectedEnd needed c.size) c' := by
  cases t with
  | word w => exact times_word_of_lt short []
  | bool =>
      -- A byte for each element is all that these take.
      have single : count * ScalarType.bool.size = count := Nat.mul_one count
      omega

/-- Reading the elements of an array at once or one by one comes to the same, but for the number of
bytes that a truncated input lacks. -/
theorem parallel_bulk (t : ScalarType) (count : Nat) :
    Parallel (bulk t count) (do expect count; times (scalar t) count []) Eq := by
  apply Parallel.of_forall
  intro c
  rcases Nat.lt_or_ge c.rest.length count with few | enough
  · -- Both ways see that the bytes cannot be enough before they read any element.
    have short : c.rest.length < count * t.size :=
      Nat.lt_of_lt_of_le few (Nat.le_mul_of_pos_right _ t.size_pos)
    right
    exact ⟨_, _, c, c, bulk_of_lt short, bind_of_error (expect_of_lt few), .unexpectedEnd ..⟩
  · rw [bind_of_ok (expect_of_le enough)]
    rcases Nat.lt_or_ge c.rest.length (count * t.size) with short | whole
    · -- One by one, the elements before the cut are read first, and none of them is refused.
      obtain ⟨needed, c', failed⟩ := parallel_bulk_of_lt short enough
      right
      exact ⟨_, _, c, c', bulk_of_lt short, failed, .unexpectedEnd ..⟩
    · obtain ⟨xs, c', bulk, each⟩ | ⟨e, c', c'', bulk, each⟩ := parallel_bulk_of_le whole
      · exact .inl ⟨xs, xs, c', bulk, each, rfl⟩
      · exact .inr ⟨e, e, c', c'', bulk, each, .refl e⟩

theorem parallel_packed (t : ScalarType) : Parallel (packed t) (list (scalar t)) Eq := by
  rw [packed_eq]
  refine (Parallel.refl count).bind ?_
  rintro n _ rfl
  exact parallel_bulk t n

end Elements

end Decode
end SchemaWire

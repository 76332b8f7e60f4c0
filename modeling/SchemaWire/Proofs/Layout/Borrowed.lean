import SchemaWire.Message
import SchemaWire.Proofs.Wire.Delimited

/-!
Borrowing and copying. A value that is read in place and copied afterwards is the value that is read
into owned memory: off the same bytes, with as many announced elements, or with the same error at
the same place.
-/
namespace SchemaWire

namespace Decode

variable {α β : Type} (f : α → β) (item : Decode α)

/-- Items may be changed behind the loop or within it. -/
theorem map_times (count : Nat) (done : List α) :
    List.map f <$> times item count done = times (f <$> item) count (done.map f) := by
  induction count generalizing done with
  | zero =>
      have same : (done.map f).reverse = done.reverse.map f := List.map_reverse.symm
      change List.map f <$> pure done.reverse = pure (done.map f).reverse
      rw [same, map_pure]
  | succ count ih =>
      rw [times_succ, times_succ, map_bind, bind_map_left]
      refine congrArg _ (funext fun a => ?_)
      exact ih (a :: done)

theorem map_list : List.map f <$> list item = list (f <$> item) := by
  simp only [list, map_bind, map_times, List.map_nil]

theorem map_option : Option.map f <$> option item = option (f <$> item) := by
  simp only [option, map_bind]
  refine congrArg _ (funext fun present => ?_)
  cases present with
  | false => simp
  | true => simp

section Run

variable {item} {c c' : Cursor}

theorem map_of_ok {a : α} (h : item c = .ok a c') : (f <$> item) c = .ok (f a) c' := by
  change EStateM.map f item c = _
  simp only [EStateM.map, h]

theorem map_of_error {e : WireError} (h : item c = .error e c') :
    (f <$> item) c = .error e c' := by
  change EStateM.map f item c = _
  simp only [EStateM.map, h]

end Run

theorem payload_map (raw : Bytes) : payload (f <$> item) raw = (payload item raw).map f := by
  unfold payload
  cases checkSerializedSize raw.length with
  | error e => rfl
  | ok =>
      cases run : item (.ofBytes raw) with
      | ok a c =>
          simp only [map_of_ok f run]
          rfl
      | error e c =>
          simp only [map_of_error f run]
          rfl

end Decode

mutual

theorem Layout.map_borrow : (l : Layout) → l.toOwned <$> l.borrow = l.decode
  | .scalar t => id_map (Decode.scalar t)
  | .text => id_map Decode.text
  | .packed t => map_eq_pure_bind View.toList (Decode.view t)
  | .list item => by
      rw [Layout.decode, ← item.map_borrow]
      exact Decode.map_list item.toOwned item.borrow
  | .option item => by
      rw [Layout.decode, ← item.map_borrow]
      exact Decode.map_option item.toOwned item.borrow
  | .record _ fields => fields.map_borrow

theorem Fields.map_borrow : (fs : Fields) → fs.toOwned <$> fs.borrow = fs.decode
  | .nil => map_pure _ _
  | .cons _ layout rest => by
      rw [Fields.decode, ← layout.map_borrow, ← rest.map_borrow]
      simp only [Fields.borrow, map_bind, bind_map_left, map_pure]
      rfl

end

/-- Decoding a message in place and copying it is decoding it: whatever the bytes, both give the
same value or the same error. From every cursor on both decoders leave the same cursor, also where
they fail. -/
theorem Message.borrow_agrees_with_decode (m : Message) :
    (∀ raw, (m.borrow raw).map m.layout.toOwned = m.decode raw) ∧
      ∀ c, (∃ x c', m.layout.borrow c = .ok x c' ∧
          m.layout.decode c = .ok (m.layout.toOwned x) c') ∨
        ∃ e c', m.layout.borrow c = .error e c' ∧ m.layout.decode c = .error e c' := by
  constructor
  · intro raw
    rw [borrow, decode, ← m.layout.map_borrow, Decode.payload_map]
  · intro c
    rw [← m.layout.map_borrow]
    cases run : m.layout.borrow c with
    | ok x c' => exact .inl ⟨x, c', rfl, Decode.map_of_ok _ run⟩
    | error e c' => exact .inr ⟨e, c', rfl, Decode.map_of_error _ run⟩

end SchemaWire

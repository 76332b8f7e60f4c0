import SchemaWire.Proofs.Value.Consumed

/-!
Arrays whose count is above the number of bytes left are refused at once. Every item takes a byte at
least, so a decoder that read on instead would fail too: the two read the same values off the same
bytes.
-/
namespace SchemaWire

namespace Decode

/-- An array of items, whatever its count. -/
def listUnguarded {α : Type} (item : Decode α) : Decode (List α) := do
  let n ← count
  times item n []

/-- The decoders read the same off every input. They may fail in different ways. -/
def Coincides {α : Type} (d d' : Decode α) : Prop :=
  ∀ c a c', d c = .ok a c' ↔ d' c = .ok a c'

namespace Coincides

variable {α β : Type} {d d' : Decode α}

theorem refl (d : Decode α) : Coincides d d := fun _ _ _ => Iff.rfl

theorem bind {f f' : α → Decode β} (h : Coincides d d') (h' : ∀ a, Coincides (f a) (f' a)) :
    Coincides (d >>= f) (d' >>= f') := by
  intro c b c''
  rw [bind_eq_ok, bind_eq_ok]
  constructor
  · rintro ⟨a, c', first, second⟩
    exact ⟨a, c', (h c a c').mp first, (h' a c' b c'').mp second⟩
  · rintro ⟨a, c', first, second⟩
    exact ⟨a, c', (h c a c').mpr first, (h' a c' b c'').mpr second⟩

theorem map (h : Coincides d d') (f : α → β) :
    Coincides (do return f (← d)) (do return f (← d')) :=
  h.bind fun a => .refl (pure (f a))

theorem times (h : Coincides d d') (n : Nat) (done : List α) :
    Coincides (times d n done) (times d' n done) := by
  induction n generalizing done with
  | zero => exact .refl _
  | succ n ih =>
      rw [times_succ, times_succ]
      exact h.bind fun a => ih (a :: done)

theorem option (h : Coincides d d') : Coincides (option d) (option d') := by
  refine (Coincides.refl (scalar .bool)).bind fun present => ?_
  cases present with
  | false => exact .refl _
  | true => exact h.map some

/-- A count above the number of bytes left cannot be met by items that take a byte each. -/
theorem list (h : Coincides d d') (solid : d'.Delimits 1) :
    Coincides (listUnguarded d) (list d') := by
  refine (Coincides.refl count).bind fun n => ?_
  intro c as c'
  constructor
  · intro run
    have items := (h.times n [] c as c').mp run
    obtain ⟨raw, k, adv, -, -, enough⟩ := (delimits_times solid n []).accepts items
    have there : n ≤ c.rest.length := by
      rw [adv.rest_length]
      exact Nat.le_trans enough (Nat.le_add_right ..)
    rw [bind_of_ok (expect_of_le there)]
    exact items
  · intro run
    exact (h.times n [] c as c').mpr (of_expect run)

end Coincides
end Decode

namespace Value

open Decode (Coincides listUnguarded)

section Fields

variable {struct struct' : Nat → Decode Value}
  (each : ∀ index, Coincides (struct index) (struct' index))
  (solid : ∀ index, (struct' index).Delimits 1)
include each solid

theorem coincides_decodeType (type : FieldType) :
    Coincides (decodeTypeWith listUnguarded struct type) (decodeType struct' type) := by
  induction type with
  | primitive p =>
      cases p with
      | scalar t => exact .refl _
      | text => exact .refl _
  | struct index => exact each index
  | array element ih => exact (ih.list (delimits_decodeType solid element)).map _

theorem coincides_decodeFields (fs : List FieldDef) :
    Coincides (decodeFieldsWith listUnguarded struct fs) (decodeFields struct' fs) := by
  induction fs with
  | nil => exact .refl _
  | cons f rest ih =>
      have item := coincides_decodeType each solid f.type
      rw [decodeFields, decodeFieldsWith, decodeFieldsWith]
      cases f.optional with
      | false => exact item.bind fun v => ih.map _
      | true =>
          refine item.option.bind fun present => ?_
          cases present with
          | none => exact ih
          | some v => exact ih.map _

end Fields

theorem coincides_decodeStruct {schema : Schema} (nonempty : ∀ d ∈ schema.defs, d.fields ≠ [])
    (depth index : Nat) :
    Coincides (decodeStructWith listUnguarded schema depth index)
      (decodeStruct schema depth index) := by
  induction depth generalizing index with
  | zero => exact .refl _
  | succ depth ih =>
      rw [decodeStruct, decodeStructWith, decodeStructWith]
      cases schema.defs[index]? with
      | none => exact .refl _
      | some d =>
          exact (coincides_decodeFields ih (delimits_decodeStruct nonempty depth) d.fields).map _

/-- The walk that reads arrays without asking whether their counts can be right differs from
decoding in nothing else, and is not stopped by a bound on the depth. It reads the same values, up
to the same place and with the same number of array elements. -/
theorem unguarded_eq_ok_iff {schema : Schema} (grounded : schema.Grounded) :
    decodeFieldWith Decode.list schema = decodeField schema ∧
      (∀ type, decodeFieldWith listUnguarded schema type =
        decodeTypeWith listUnguarded (fun j => decodeFieldWith listUnguarded schema (.struct j))
          type) ∧
      (∀ index d, schema.defs[index]? = some d →
        decodeFieldWith listUnguarded schema (.struct index) = do
          return .object d.name (← decodeFieldsWith listUnguarded
            (fun j => decodeFieldWith listUnguarded schema (.struct j)) d.fields)) ∧
      ∀ type c v c', decodeFieldWith listUnguarded schema type c = .ok v c' ↔
        decodeField schema type c = .ok v c' := by
  refine ⟨rfl, decodeFieldWith_type _ grounded,
    fun index d located => decodeFieldWith_struct _ grounded located, ?_⟩
  intro type c v c'
  have nonempty := grounded.fields_nonempty
  have same := coincides_decodeType (coincides_decodeStruct nonempty (depthBound schema c))
    (delimits_decodeStruct nonempty (depthBound schema c)) type
  exact same c v c'

/-- Two badges are read either way, and nine badges in four bytes neither way. -/
theorem unguarded_eq_ok_iff_team :
    decodeFieldWith listUnguarded teamSchema (.struct 1) (.ofBytes [2, 0, 0, 0, 1, 7, 0, 1, 9]) =
        .ok team ⟨[9], 8, 2⟩ ∧
      ∀ v c', decodeFieldWith listUnguarded teamSchema (.struct 1)
        (.ofBytes [9, 0, 0, 0, 1, 7, 0, 1]) ≠ .ok v c' := by
  obtain ⟨-, -, -, same⟩ := unguarded_eq_ok_iff teamSchema_grounded
  refine ⟨(same _ _ _ _).mpr rfl, fun v c' run => ?_⟩
  have refused : decodeField teamSchema (.struct 1) (.ofBytes [9, 0, 0, 0, 1, 7, 0, 1]) =
      .error (.unexpectedEnd 13 8) ⟨[1, 7, 0, 1], 4, 9⟩ := rfl
  cases refused.symm.trans ((same _ _ _ _).mp run)

end Value
end SchemaWire

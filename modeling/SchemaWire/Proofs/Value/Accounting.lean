import SchemaWire.Proofs.Value.Canonical
import SchemaWire.Proofs.Wire.Delimited
import SchemaWire.Value.Decode

/-!
The tally of array elements. Whatever the schema, a decoder counts exactly the elements of the value
it returns, at every depth, and stays within the limits; and when it stops at a limit, the number it
reports is over that limit by no more than one array.
-/
namespace SchemaWire

/-- A number reported with a limit is over it, and a total by at most one array. -/
def WireError.Overrun : WireError → Prop
  | .tooManyElements total =>
    maxTotalElements < total ∧ total ≤ maxTotalElements + maxArrayElements
  | .arrayTooLarge count => maxArrayElements < count
  | _ => True

namespace Decode

/-- From a tally within the limit, the decoder counts `k` elements for what it reads, where `P` holds
of both, and keeps to the limit. -/
structure Accounts {α : Type} (d : Decode α) (P : Nat → α → Prop) : Prop where
  reads : ∀ ⦃c c' : Cursor⦄ ⦃a : α⦄, d c = .ok a c' → c.elements ≤ maxTotalElements →
    ∃ k, P k a ∧ c'.elements = c.elements + k ∧ c'.elements ≤ maxTotalElements
  fails : ∀ ⦃c c' : Cursor⦄ ⦃e : WireError⦄, d c = .error e c' → c.elements ≤ maxTotalElements →
    e.Overrun

namespace Accounts

variable {α β : Type} {d : Decode α} {P : Nat → α → Prop}

theorem pure {a : α} (h : P 0 a) : Accounts (pure a) P where
  reads := by
    intro c c' b run within
    cases run
    exact ⟨0, h, rfl, within⟩
  fails := by
    intro c c' e run
    cases run

theorem throw {e : WireError} (h : e.Overrun) : Accounts (throw e : Decode α) P where
  reads := by
    intro c c' a run
    cases run
  fails := by
    intro c c' e' run _
    cases run
    exact h

theorem imp {Q : Nat → α → Prop} (h : Accounts d P) (imp : ∀ k a, P k a → Q k a) :
    Accounts d Q where
  reads := by
    intro c c' a run within
    obtain ⟨k, holds, counted⟩ := h.reads run within
    exact ⟨k, imp k a holds, counted⟩
  fails := h.fails

theorem bind {f : α → Decode β} {Q : α → Nat → β → Prop} {R : Nat → β → Prop} (h : Accounts d P)
    (h' : ∀ a, Accounts (f a) (Q a)) (joint : ∀ k a k' b, P k a → Q a k' b → R (k + k') b) :
    Accounts (d >>= f) R where
  reads := by
    intro c c'' b run within
    obtain ⟨a, c', first, second⟩ := bind_eq_ok.mp run
    obtain ⟨k, holds, total, kept⟩ := h.reads first within
    obtain ⟨k', holds', total', kept'⟩ := (h' a).reads second kept
    refine ⟨k + k', joint k a k' b holds holds', ?_, kept'⟩
    rw [total', total, Nat.add_assoc]
  fails := by
    intro c c'' e run within
    rcases bind_eq_error.mp run with failed | ⟨a, c', first, second⟩
    · exact h.fails failed within
    · obtain ⟨-, -, -, kept⟩ := h.reads first within
      exact (h' a).fails second kept

theorem map {Q : Nat → β → Prop} (h : Accounts d P) (f : α → β) (imp : ∀ k a, P k a → Q k (f a)) :
    Accounts (do return f (← d)) Q :=
  h.bind (fun a => .pure (P := fun k b => k = 0 ∧ b = f a) ⟨rfl, rfl⟩) fun k a _ _ holds same => by
    obtain ⟨rfl, rfl⟩ := same
    exact imp k a holds

end Accounts

/-- The decoder leaves the tally alone. -/
def Uncounted {α : Type} (d : Decode α) : Prop := d.Accounts fun k _ => k = 0

section Laws

variable {α β : Type}

theorem Uncounted.bind {d : Decode α} {f : α → Decode β} {P : Nat → β → Prop} (h : Uncounted d)
    (h' : ∀ a, (f a).Accounts P) : (d >>= f).Accounts P := by
  refine Accounts.bind h h' ?_
  rintro _ a k b rfl holds
  rwa [Nat.zero_add]

theorem uncounted_expect (n : Nat) : Uncounted (expect n) where
  reads := by
    intro c c' _ run within
    obtain ⟨_, _, adv, -, rfl⟩ := accepts_expect n run
    exact ⟨0, rfl, adv.elements, adv.elements ▸ within⟩
  fails := by
    intro c c' e run _
    rw [expect] at run
    split at run
    · cases run
    · cases run
      trivial

theorem uncounted_bytes (n : Nat) : Uncounted (bytes n) := by
  refine (uncounted_expect n).bind fun _ => ⟨?_, ?_⟩
  · intro c c' raw run within
    cases run
    exact ⟨0, rfl, rfl, within⟩
  · intro c c' e run
    cases run

theorem uncounted_check (t : ScalarType) (raw : Bytes) : Uncounted (ofExcept (t.check raw)) := by
  cases t with
  | word w => exact .pure rfl
  | bool =>
      rw [ScalarType.check]
      split
      · exact .pure rfl
      · exact .throw trivial

theorem uncounted_scalar (t : ScalarType) : Uncounted (scalar t) :=
  (uncounted_bytes t.size).bind fun raw => (uncounted_check t raw).bind fun _ => .pure rfl

theorem uncounted_length : Uncounted length :=
  (uncounted_scalar (.word .u32)).bind fun _ => .pure rfl

theorem uncounted_text : Uncounted text := by
  refine uncounted_length.bind fun n => (uncounted_bytes n).bind fun raw => ?_
  cases textOfBytes? raw with
  | some s => exact .pure rfl
  | none => exact .throw trivial

/-- The one place where the tally changes. -/
theorem accounts_tally (n : Nat) :
    (tally n).Accounts fun k m => k = m ∧ m ≤ maxArrayElements where
  reads := by
    intro c c' m run within
    obtain ⟨_, _, adv, -, rfl, rfl, small⟩ := accepts_tally n run
    exact ⟨_, ⟨rfl, small⟩, adv.elements, (delimits_tally _).within run within⟩
  fails := by
    intro c c' e run within
    unfold tally at run
    split at run
    · rename_i large
      cases run
      exact large
    · dsimp only at run
      split at run
      · -- The tally was within the limit before, so this array alone is over it.
        rename_i small exceeded
        cases run
        exact ⟨exceeded, Nat.add_le_add within (Nat.le_of_not_lt small)⟩
      · cases run

section Items

variable {item : Decode α} {weight : α → Nat} {Q : α → Prop}
  (h : item.Accounts fun k a => k = weight a ∧ Q a)
include h

theorem accounts_times (n : Nat) (done : List α) :
    (times item n done).Accounts fun k as => ∃ new, as = done.reverse ++ new ∧ new.length = n ∧
      k = (new.map weight).sum ∧ ∀ a ∈ new, Q a := by
  induction n generalizing done with
  | zero => exact .pure ⟨[], (List.append_nil _).symm, rfl, rfl, List.forall_mem_nil _⟩
  | succ n ih =>
      rw [times_succ]
      refine h.bind (fun a => ih (a :: done)) ?_
      rintro _ a _ _ ⟨rfl, good⟩ ⟨new, rfl, sized, rfl, each⟩
      refine ⟨a :: new, ?_, congrArg Nat.succ sized, ?_, List.forall_mem_cons.mpr ⟨good, each⟩⟩
      · rw [List.reverse_cons, List.append_assoc, List.singleton_append]
      · rw [List.map_cons, List.sum_cons]

theorem accounts_list : (list item).Accounts fun k as =>
    k = as.length + (as.map weight).sum ∧ as.length ≤ maxArrayElements ∧ ∀ a ∈ as, Q a := by
  refine (uncounted_length.bind accounts_tally).bind
    (fun n => (uncounted_expect n).bind fun _ => accounts_times h n []) ?_
  rintro _ _ _ _ ⟨rfl, small⟩ ⟨as, rfl, rfl, rfl, each⟩
  exact ⟨rfl, small, each⟩

theorem accounts_option : (option item).Accounts fun k o =>
    k = (o.map weight).getD 0 ∧ ∀ a ∈ o, Q a := by
  refine (uncounted_scalar .bool).bind fun present => ?_
  cases present with
  | false => exact .pure ⟨rfl, fun a absent => by cases absent⟩
  | true =>
      refine h.map some ?_
      rintro _ a ⟨rfl, good⟩
      exact ⟨rfl, fun b same => Option.mem_some_iff.mp same ▸ good⟩

end Items
end Laws
end Decode

namespace Value

/-- The tally rises by the elements of the value, whose arrays are no longer than allowed. -/
abbrev Tallied (d : Decode Value) : Prop :=
  d.Accounts fun k v => k = v.elements ∧ v.longest ≤ maxArrayElements

section Fields

variable {struct : Nat → Decode Value} (each : ∀ index, Tallied (struct index))
include each

theorem tallied_decodeType (type : FieldType) : Tallied (decodeType struct type) := by
  induction type with
  | primitive p =>
      cases p with
      | scalar t => exact (Decode.uncounted_scalar t).bind fun x => .pure ⟨rfl, Nat.zero_le _⟩
      | text => exact Decode.uncounted_text.bind fun s => .pure ⟨rfl, Nat.zero_le _⟩
  | struct index => exact each index
  | array element ih =>
      refine (Decode.accounts_list ih).map _ ?_
      rintro _ items ⟨rfl, small, shorter⟩
      refine ⟨?_, ?_⟩
      · rw [elements, elementsItems_eq]
      · rw [longest, Nat.max_le]
        exact ⟨small, longestItems_le_of_forall shorter⟩

theorem tallied_decodeFields (fs : List FieldDef) :
    (decodeFields struct fs).Accounts fun k entries =>
      k = elementsEntries entries ∧ longestEntries entries ≤ maxArrayElements := by
  induction fs with
  | nil => exact .pure ⟨rfl, Nat.zero_le _⟩
  | cons f rest ih =>
      have value := tallied_decodeType each f.type
      -- A value that is there adds its elements to those of the entries behind it.
      have entry (v : Value) : Decode.Accounts
          (do return (f.name, v) :: (← decodeFields struct rest)) fun k entries =>
            v.elements + k = elementsEntries entries ∧
              (v.longest ≤ maxArrayElements → longestEntries entries ≤ maxArrayElements) := by
        refine ih.map _ ?_
        rintro _ entries ⟨rfl, shorter⟩
        exact ⟨rfl, fun short => Nat.max_le.mpr ⟨short, shorter⟩⟩
      rw [decodeFields, decodeFieldsWith]
      cases f.optional with
      | false =>
          refine value.bind entry ?_
          rintro _ v _ entries ⟨rfl, short⟩ ⟨total, longest⟩
          exact ⟨total, longest short⟩
      | true =>
          refine (Decode.accounts_option value).bind (Q := fun present k entries =>
            (present.map elements).getD 0 + k = elementsEntries entries ∧
              ((∀ v ∈ present, v.longest ≤ maxArrayElements) →
                longestEntries entries ≤ maxArrayElements)) ?_ ?_
          · intro present
            cases present with
            | none =>
                refine ih.imp ?_
                rintro k entries ⟨total, short⟩
                exact ⟨(Nat.zero_add k).trans total, fun _ => short⟩
            | some v =>
                refine (entry v).imp ?_
                rintro k entries ⟨total, short⟩
                exact ⟨total, fun present => short (present v rfl)⟩
          · rintro _ present _ entries ⟨rfl, short⟩ ⟨total, longest⟩
            exact ⟨total, longest short⟩

end Fields

/-- At any bound on the depth, also where the structs of a schema hold each other without end. -/
theorem tallied_decodeStruct (schema : Schema) (depth index : Nat) :
    Tallied (decodeStruct schema depth index) := by
  induction depth generalizing index with
  | zero =>
      rw [decodeStruct, decodeStructWith]
      split
      · exact .throw trivial
      · exact .throw trivial
  | succ depth ih =>
      rw [decodeStruct, decodeStructWith]
      cases schema.defs[index]? with
      | none => exact .throw trivial
      | some d => exact (tallied_decodeFields ih d.fields).map _ fun _ _ holds => holds

/-- With a fresh tally: it ends up as the number of elements of all arrays of the value, inner and
outer ones, which keep to the limits; and a limit is only reported where it is exceeded. -/
theorem tally_of_decodeAt (schema : Schema) (index : Nat) {c : Cursor} (fresh : c.elements = 0) :
    (∀ v c', decodeAt schema index c = .ok v c' →
      c'.elements = v.elements ∧ v.elements ≤ 10000000 ∧ v.longest ≤ 1000000) ∧
    (∀ n c', decodeAt schema index c = .error (.tooManyElements n) c' →
      10000001 ≤ n ∧ n ≤ 11000000) ∧
    ∀ n c', decodeAt schema index c = .error (.arrayTooLarge n) c' → 1000000 < n := by
  have tallied := tallied_decodeStruct schema (depthBound schema c) index
  have within : c.elements ≤ maxTotalElements := fresh ▸ Nat.zero_le _
  refine ⟨?_, ?_, ?_⟩
  · intro v c' run
    obtain ⟨_, ⟨rfl, short⟩, total, kept⟩ := tallied.reads run within
    rw [fresh, Nat.zero_add] at total
    exact ⟨total, total ▸ kept, short⟩
  · intro n c' failed
    exact tallied.fails failed within
  · intro n c' failed
    exact tallied.fails failed within

def gridSchema : Schema :=
  ⟨[⟨"Grid", [⟨"rows", .array (.array (.primitive (.scalar (.word .u8)))), false⟩]⟩]⟩

def grid : Value :=
  .object "Grid" [("rows", .array [
    .array [.scalar (.word .u8) 7], .array [.scalar (.word .u8) 8, .scalar (.word .u8) 9]])]

/-- Two rows with three bytes in them are five elements, and one row more than allowed is refused. -/
theorem tally_of_decodeAt_grid :
    decodeAt gridSchema 0 ⟨[2, 0, 0, 0, 1, 0, 0, 0, 7, 2, 0, 0, 0, 8, 9], 0, 0⟩ =
        .ok grid ⟨[], 15, 5⟩ ∧ grid.elements = 5 ∧ grid.longest ≤ 1000000 ∧
      decodeAt gridSchema 0 ⟨[0x41, 0x42, 0x0F, 0], 0, 0⟩ =
        .error (.arrayTooLarge 1000001) ⟨[], 4, 0⟩ ∧ 1000000 < 1000001 := by
  have run : decodeAt gridSchema 0 ⟨[2, 0, 0, 0, 1, 0, 0, 0, 7, 2, 0, 0, 0, 8, 9], 0, 0⟩ =
      .ok grid ⟨[], 15, 5⟩ := rfl
  have failed : decodeAt gridSchema 0 ⟨[0x41, 0x42, 0x0F, 0], 0, 0⟩ =
      .error (.arrayTooLarge 1000001) ⟨[], 4, 0⟩ := rfl
  obtain ⟨total, -, short⟩ := (tally_of_decodeAt gridSchema 0 rfl).1 _ _ run
  exact ⟨run, total.symm, short, failed, (tally_of_decodeAt gridSchema 0 rfl).2.2 _ _ failed⟩

end Value
end SchemaWire

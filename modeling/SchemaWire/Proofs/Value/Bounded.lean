import SchemaWire.Proofs.Catalog.Schema
import SchemaWire.Proofs.Document.Resolution
import SchemaWire.Proofs.Value.Consumed

/-!
Decoding by the schema of a valid document. Structs nest at most as often as there are definitions,
and whatever goes wrong lies in the input, never in the schema.
-/
namespace SchemaWire

/-- The reasons that lie in the bytes being read. -/
inductive WireError.OfInput : WireError → Prop where
  | unexpectedEnd (needed available : Nat) : OfInput (.unexpectedEnd needed available)
  | invalidUtf8 : OfInput .invalidUtf8
  | arrayTooLarge (count : Nat) : OfInput (.arrayTooLarge count)
  | tooManyElements (total : Nat) : OfInput (.tooManyElements total)
  | invalidBool (byte : UInt8) : OfInput (.invalidBool byte)

namespace Decode

/-- The decoder fails for reasons in its input only. -/
def BlamesInput {α : Type} (d : Decode α) : Prop :=
  ∀ ⦃c c' : Cursor⦄ ⦃e : WireError⦄, d c = .error e c' → e.OfInput

namespace BlamesInput

variable {α β : Type} {d : Decode α}

protected theorem pure (a : α) : BlamesInput (pure a : Decode α) := by
  intro c c' e failed
  cases failed

protected theorem throw {e : WireError} (h : e.OfInput) : BlamesInput (throw e : Decode α) := by
  intro c c' e' failed
  cases failed
  exact h

theorem bind {f : α → Decode β} (h : d.BlamesInput) (h' : ∀ a, (f a).BlamesInput) :
    (d >>= f).BlamesInput := by
  intro c c' e failed
  rcases bind_eq_error.mp failed with first | ⟨a, c'', -, second⟩
  · exact h first
  · exact h' a second

theorem map (h : d.BlamesInput) (f : α → β) : BlamesInput (do return f (← d)) :=
  h.bind fun a => .pure (f a)

end BlamesInput

theorem blamesInput_expect (n : Nat) : (expect n).BlamesInput := by
  intro c c' e failed
  rw [expect] at failed
  split at failed
  · cases failed
  · cases failed
    exact .unexpectedEnd _ _

theorem blamesInput_bytes (n : Nat) : (bytes n).BlamesInput := by
  refine (blamesInput_expect n).bind fun _ => ?_
  intro c c' e failed
  cases failed

theorem blamesInput_check (t : ScalarType) (raw : Bytes) :
    (ofExcept (t.check raw)).BlamesInput := by
  cases t with
  | word w => exact .pure ()
  | bool =>
      rw [ScalarType.check]
      split
      · exact .pure ()
      · exact .throw (.invalidBool _)

theorem blamesInput_scalar (t : ScalarType) : (scalar t).BlamesInput :=
  (blamesInput_bytes t.size).bind fun raw => (blamesInput_check t raw).bind fun _ => .pure _

theorem blamesInput_length : length.BlamesInput := (blamesInput_scalar (.word .u32)).map _

theorem blamesInput_text : text.BlamesInput := by
  refine blamesInput_length.bind fun n => (blamesInput_bytes n).bind fun raw => ?_
  cases textOfBytes? raw with
  | none => exact .throw .invalidUtf8
  | some s => exact .pure s

theorem blamesInput_tally (n : Nat) : (tally n).BlamesInput := by
  intro c c' e failed
  rw [tally] at failed
  split at failed
  · cases failed
    exact .arrayTooLarge n
  · dsimp only at failed
    split at failed
    · cases failed
      exact .tooManyElements _
    · cases failed

theorem blamesInput_times {α : Type} {item : Decode α} (h : item.BlamesInput) (n : Nat)
    (done : List α) : (times item n done).BlamesInput := by
  induction n generalizing done with
  | zero => exact .pure done.reverse
  | succ n ih =>
      rw [times_succ]
      exact h.bind fun a => ih (a :: done)

theorem blamesInput_list {α : Type} {item : Decode α} (h : item.BlamesInput) :
    (list item).BlamesInput :=
  (blamesInput_length.bind blamesInput_tally).bind fun n =>
    (blamesInput_expect n).bind fun _ => blamesInput_times h n []

theorem blamesInput_option {α : Type} {item : Decode α} (h : item.BlamesInput) :
    (option item).BlamesInput := by
  refine (blamesInput_scalar .bool).bind fun present => ?_
  split
  · exact h.map some
  · exact .pure none

end Decode

namespace Value

section Fields

variable {struct : Nat → Decode Value}

theorem blamesInput_decodeType {type : FieldType}
    (each : ∀ j, type.struct? = some j → (struct j).BlamesInput) :
    (decodeType struct type).BlamesInput := by
  induction type with
  | primitive p =>
      cases p with
      | scalar t => exact (Decode.blamesInput_scalar t).map _
      | text => exact Decode.blamesInput_text.map _
  | struct index => exact each index rfl
  | array element ih => exact (Decode.blamesInput_list (ih each)).map _

theorem blamesInput_decodeFields {fs : List FieldDef}
    (each : ∀ f ∈ fs, ∀ j, f.type.struct? = some j → (struct j).BlamesInput) :
    (decodeFields struct fs).BlamesInput := by
  induction fs with
  | nil => exact .pure []
  | cons f rest ih =>
      have item := blamesInput_decodeType (each f (List.mem_cons_self ..))
      have later := ih fun g member => each g (List.mem_cons_of_mem f member)
      rw [decodeFields, decodeFieldsWith]
      split
      · refine (Decode.blamesInput_option item).bind fun present => ?_
        cases present with
        | none => exact later
        | some v => exact later.map _
      · exact item.bind fun v => later.map _

end Fields

variable {schema : Schema} (grounded : schema.Grounded)
include grounded

/-- A struct with room for the structs it leads to never runs out of depth. -/
theorem blamesInput_decodeStruct {depth index : Nat} (deep : schema.rank index < depth)
    (inside : index < schema.defs.length) : (decodeStruct schema depth index).BlamesInput := by
  induction depth generalizing index with
  | zero => exact absurd deep (Nat.not_lt_zero _)
  | succ depth ih =>
      have located := List.getElem?_eq_getElem inside
      rw [decodeStruct_succ located]
      refine (blamesInput_decodeFields fun f member j leads => ?_).map _
      have refers : schema.Refers index j := ⟨_, located, f, member, leads⟩
      have lower := grounded.rank_lt_of_refers refers
      exact ih (by omega) (grounded.refers_lt refers)

theorem length_le_rank {index : Nat} {chain : List Nat}
    (refers : (index :: chain).IsChain schema.Refers) : chain.length ≤ schema.rank index := by
  induction chain generalizing index with
  | nil => exact Nat.zero_le _
  | cons next chain ih =>
      obtain ⟨step, rest⟩ := List.isChain_cons_cons.mp refers
      exact Nat.lt_of_le_of_lt (ih rest) (grounded.rank_lt_of_refers step)

end Value

/-- By the schema of a valid document every input is decoded to a value or refused for a reason in
the input. The decoder calls itself without a bound on the depth, but every chain of structs inside
one another is at most as long as the list of definitions, and with that bound it does the same. -/
theorem Document.decodeAt_of_valid {d : Document} (valid : d.violations = []) :
    ∃ schema, d.toSchema = .ok schema ∧ schema.defs.length = d.structs.length ∧
      ∀ index (inside : index < schema.defs.length),
        (Value.decodeAt schema index = do
          return .object schema.defs[index].name
            (← Value.decodeFields (Value.decodeAt schema) schema.defs[index].fields)) ∧
        (∀ chain, (index :: chain).IsChain schema.Refers →
          (index :: chain).length ≤ schema.defs.length) ∧
        Value.decodeStruct schema schema.defs.length index = Value.decodeAt schema index ∧
        ∀ c, (∃ v c', Value.decodeAt schema index c = .ok v c') ∨
          ∃ e c', Value.decodeAt schema index c = .error e c' ∧ e.OfInput := by
  obtain ⟨schema, lowered, resolved⟩ := exists_toSchema valid
  have grounded := (wellFormed_of_resolved resolved valid).grounded
  refine ⟨schema, lowered, resolved.length_eq.symm, ?_⟩
  intro index inside
  have rank := grounded.rank_lt_length inside
  have bounded := congrFun (Value.decodeAt_eq grounded).symm index
  refine ⟨Value.decodeAt_unfold grounded (List.getElem?_eq_getElem inside), ?_, bounded, ?_⟩
  · intro chain refers
    exact Nat.lt_of_le_of_lt (Value.length_le_rank grounded refers) rank
  · intro c
    cases run : Value.decodeAt schema index c with
    | ok v c' => exact .inl ⟨v, c', rfl⟩
    | error e c' =>
        rw [← bounded] at run
        exact .inr ⟨e, c', rfl, Value.blamesInput_decodeStruct grounded rank inside run⟩

/-- An inventory holds points and items, four levels being more than it needs. -/
theorem Document.decodeAt_of_valid_inventory :
    Catalog.document.violations = [] ∧ Catalog.schema.Refers 3 2 ∧
      (∀ chain, (3 :: chain).IsChain Catalog.schema.Refers → (3 :: chain).length ≤ 4) ∧
      Value.decodeStruct Catalog.schema 4 3 = Value.decodeAt Catalog.schema 3 ∧
      ∀ c, (∃ v c', Value.decodeAt Catalog.schema 3 c = .ok v c') ∨
        ∃ e c', Value.decodeAt Catalog.schema 3 c = .error e c' ∧ e.OfInput := by
  obtain ⟨schema, lowered, -, each⟩ := Document.decodeAt_of_valid Catalog.document_violations
  obtain rfl := Except.ok.inj (Catalog.toSchema_document.symm.trans lowered)
  obtain ⟨-, nested, bounded, results⟩ := each 3 (by decide)
  have items : Catalog.schema.Refers 3 2 :=
    ⟨Catalog.inventoryDef, rfl, Catalog.required "items" (.array (.struct 2)), by decide, rfl⟩
  exact ⟨Catalog.document_violations, items, nested, bounded, results⟩

end SchemaWire

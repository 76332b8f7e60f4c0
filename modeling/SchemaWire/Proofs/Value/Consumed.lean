import SchemaWire.Proofs.Value.Recursion
import SchemaWire.Proofs.Wire.Delimited

/-!
A decoded value depends on the bytes consumed for it, on all of them and on no others. Whatever
stands behind them is not looked at, and without the last of them the input ends too soon.
-/
namespace SchemaWire.Value

section Delimited

variable {struct : Nat → Decode Value} (each : ∀ index, (struct index).Delimits 1)
include each

theorem delimits_decodeType (type : FieldType) : (decodeType struct type).Delimits 1 := by
  induction type with
  | primitive p =>
      cases p with
      | scalar t => exact ((Decode.delimits_scalar t).map _).mono t.size_pos
      | text => exact (Decode.delimits_text.map _).mono (by decide)
  | struct index => exact each index
  | array element ih => exact ((Decode.delimits_list ih).map _).mono (by decide)

theorem delimits_decodeFields (fs : List FieldDef) :
    (decodeFields struct fs).Delimits fs.length := by
  induction fs with
  | nil => exact .pure []
  | cons f rest ih =>
      rw [decodeFields, decodeFieldsWith, List.length_cons, Nat.add_comm]
      cases f.optional with
      | false => exact (delimits_decodeType each f.type).bind fun v => ih.map _
      | true =>
          refine (Decode.delimits_option (delimits_decodeType each f.type)).bind fun present => ?_
          cases present with
          | none => exact ih
          | some v => exact ih.map _

end Delimited

theorem delimits_decodeStruct {schema : Schema} (nonempty : ∀ d ∈ schema.defs, d.fields ≠ [])
    (depth index : Nat) : (decodeStruct schema depth index).Delimits 1 := by
  induction depth generalizing index with
  | zero =>
      rw [decodeStruct, decodeStructWith]
      split
      · exact .throw _
      · exact .throw _
  | succ depth ih =>
      rw [decodeStruct, decodeStructWith]
      cases located : schema.defs[index]? with
      | none => exact .throw _
      | some d =>
          have some := List.length_pos_iff.mpr (nonempty d (List.mem_of_getElem? located))
          exact ((delimits_decodeFields ih d.fields).map _).mono some

/-- A payload is decoded as the struct at that position, off its first `n` bytes. -/
def Consumes (schema : Schema) (index : Nat) (raw : Bytes) (v : Value) (n : Nat) : Prop :=
  decode schema index raw = .ok v ∧
    ∃ c, decodeAt schema index (.ofBytes raw) = .ok v c ∧ c.index = n

/-- The bytes consumed for a value suffice for it before any others, and every cut through them
is reported as an end of input at the place of the cut. -/
theorem consumes_exactly {schema : Schema} (grounded : schema.Grounded) {i n : Nat} {b : Bytes}
    {v : Value} (h : Consumes schema i b v n) :
    (∀ c, n + c.length ≤ maxSerializedSize → Consumes schema i (b.take n ++ c) v n) ∧
      ∀ p, p <+: b.take n → p ≠ b.take n →
        ∃ needed, decode schema i p = .error (.unexpectedEnd needed p.length) := by
  obtain ⟨decoded, e, run, rfl⟩ := h
  have delimits : (decodeAt schema i).Delimits 1 := by
    rw [decodeAt_eq grounded]
    exact delimits_decodeStruct grounded.fields_nonempty _ i
  obtain ⟨raw, k, adv, reads, truncates, -⟩ := delimits.accepts run
  have few : k ≤ maxTotalElements := by
    have total := delimits.within run (Nat.zero_le _)
    rwa [adv.elements, Cursor.ofBytes, Nat.zero_add] at total
  have consumed : e.index = raw.length := adv.index.trans (Nat.zero_add _)
  have whole : b = raw ++ e.rest := adv.rest
  rw [consumed, whole, List.take_left]
  constructor
  · intro c small
    rw [← List.length_append] at small
    have again := reads.ofBytes few c
    exact ⟨Decode.payload_of_ok small again, _, again, rfl⟩
  · intro p front cut
    have shorter : p.length < raw.length :=
      Nat.lt_of_le_of_ne front.length_le fun same => cut (front.eq_of_length same)
    have small : p.length ≤ maxSerializedSize := by
      have size := Decode.length_le_of_payload decoded
      rw [whole, List.length_append] at size
      omega
    obtain ⟨needed, c, failed⟩ := truncates (c := .ofBytes p) front shorter
      (Nat.le_trans (Nat.le_of_eq (Nat.zero_add k)) few)
    rw [Cursor.size, Cursor.ofBytes, Cursor.remaining, Nat.zero_add] at failed
    exact ⟨needed, Decode.payload_of_error small failed⟩

/-- Teams with badges whose rank may be missing. -/
def teamSchema : Schema := ⟨[
  ⟨"Badge", [⟨"rank", .primitive (.scalar (.word .u8)), true⟩]⟩,
  ⟨"Team", [⟨"badges", .array (.struct 0), false⟩, ⟨"active", .primitive (.scalar .bool), false⟩]⟩]⟩

theorem teamSchema_grounded : teamSchema.Grounded := .of_backward (by decide) (by decide)

def team : Value :=
  .object "Team" [
    ("badges", .array [.object "Badge" [("rank", .scalar (.word .u8) 7)], .object "Badge" []]),
    ("active", .scalar .bool true)]

/-- A byte after the value is replaced by others; a cut inside the array is found by its count. -/
theorem consumes_exactly_team :
    Consumes teamSchema 1 [2, 0, 0, 0, 1, 7, 0, 1, 9] team 8 ∧
      Consumes teamSchema 1 [2, 0, 0, 0, 1, 7, 0, 1, 200, 0] team 8 ∧
      ∃ needed, decode teamSchema 1 [2, 0, 0, 0, 1] = .error (.unexpectedEnd needed 5) := by
  have consumed : Consumes teamSchema 1 [2, 0, 0, 0, 1, 7, 0, 1, 9] team 8 := ⟨rfl, _, rfl, rfl⟩
  obtain ⟨enough, needed⟩ := consumes_exactly teamSchema_grounded consumed
  exact ⟨consumed, enough [200, 0] (by decide), needed [2, 0, 0, 0, 1] (by decide) (by decide)⟩

end SchemaWire.Value

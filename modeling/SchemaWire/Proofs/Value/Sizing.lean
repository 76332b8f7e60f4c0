import SchemaWire.Proofs.Value.Bytes

/-!
Measuring and writing. The size of a value decides what its encoder does: a value that has a size is
written in exactly that many bytes, and one that has none is refused for the same reason. So a
buffer of the measured size is never too small.
-/
namespace SchemaWire.Value

theorem sizeAs_eq_ok {schema : Schema} {v : Value} {type : FieldType} {n : Nat} :
    sizeAs schema v type = .ok n ↔ ∃ raw, bytesAs schema v type = .ok raw ∧ raw.length = n := by
  rw [sizeAs_eq]
  cases bytesAs schema v type with
  | error e => simp [Except.map]
  | ok raw => simp [Except.map]

theorem sizeAs_eq_error {schema : Schema} {v : Value} {type : FieldType} {e : WireError} :
    sizeAs schema v type = .error e ↔ bytesAs schema v type = .error e := by
  rw [sizeAs_eq]
  cases bytesAs schema v type with
  | error e => simp [Except.map]
  | ok raw => simp [Except.map]

/-- Encoding answers with as many bytes as were measured, or with the error of measuring. -/
theorem encode_cases (schema : Schema) (v : Value) :
    (∃ raw, encode schema v = .ok raw ∧ encodedSize schema v = .ok raw.length) ∨
      ∃ e, encode schema v = .error (.rejected e) ∧ encodedSize schema v = .error e := by
  rw [encode_eq_mapError, encodedSize]
  cases structIndex schema v with
  | error e => exact .inr ⟨e, rfl, rfl⟩
  | ok index =>
      have size := sizeAs_eq schema v (.struct index)
      cases written : bytesAs schema v (.struct index) with
      | error e =>
          rw [written] at size
          exact .inr ⟨e, congrArg (Except.mapError WriteFault.rejected) written, size⟩
      | ok raw =>
          rw [written] at size
          exact .inl ⟨raw, congrArg (Except.mapError WriteFault.rejected) written, size⟩

/-- A value with a size is written in exactly that many bytes at the cursor of any buffer that has
room for them, and nothing else in the buffer changes. A value without one is refused with the same
error on any buffer with enough room. So encoding an object succeeds exactly where measuring it
does, gives as many bytes, and never overflows its buffer. -/
theorem encodeAs_agrees_with_sizeAs (schema : Schema) (v : Value) :
    (∀ type n, sizeAs schema v type = .ok n → ∃ raw : Bytes, raw.length = n ∧
      ∀ b : Buffer, n ≤ b.remaining → ∃ b', encodeAs schema v type b = .ok () b' ∧
        b'.index = b.index + n ∧
        b'.contents = b.contents.take b.index ++ raw ++ b.contents.drop (b.index + n)) ∧
    (∀ type e, sizeAs schema v type = .error e → ∃ enough, ∀ b : Buffer, enough ≤ b.remaining →
      ∃ b', encodeAs schema v type b = .error (.rejected e) b') ∧
    (∀ n, encodedSize schema v = .ok n ↔ ∃ raw, encode schema v = .ok raw ∧ raw.length = n) ∧
    (∀ e, encodedSize schema v = .error e ↔ encode schema v = .error (.rejected e)) ∧
    encode schema v ≠ .error .overflow := by
  refine ⟨?_, ?_, ?_⟩
  · intro type n measured
    obtain ⟨raw, bytes, rfl⟩ := sizeAs_eq_ok.mp measured
    refine ⟨raw, rfl, fun b fits => ⟨b.advance raw, encodeAs_writes bytes fits, ?_, ?_⟩⟩
    · exact b.index_advance raw
    · exact b.contents_advance raw
  · intro type e refused
    have performs := encodeAs_performs schema v type
    rw [sizeAs_eq_error.mp refused] at performs
    obtain ⟨raw, stops⟩ := performs
    exact ⟨raw.length, fun b fits => ⟨b.advance raw, stops fits⟩⟩
  · obtain ⟨raw, encoded, measured⟩ | ⟨e, encoded, measured⟩ := encode_cases schema v
    · simp [encoded, measured, eq_comm]
    · simp [encoded, measured]

/-- Nodes inside one another without end, under a name that is declared twice. -/
def nodeSchema : Schema := ⟨[⟨"Node", [⟨"next", .struct 0, true⟩, ⟨"next", .struct 0, true⟩]⟩]⟩

def nodePair : Value := .object "Node" [("next", .object "Node" [])]

/-- The second item is no number. -/
def mixedItems : Value := .array [.scalar (.word .u8) 7, .text "7"]

theorem encodeAs_agrees_with_sizeAs_nodes :
    sizeAs nodeSchema nodePair (.struct 0) = .ok 6 ∧
      (∃ raw : Bytes, raw.length = 6 ∧ ∀ b : Buffer, 6 ≤ b.remaining →
        ∃ b', encodeAs nodeSchema nodePair (.struct 0) b = .ok () b' ∧ b'.index = b.index + 6 ∧
          b'.contents = b.contents.take b.index ++ raw ++ b.contents.drop (b.index + 6)) ∧
      sizeAs nodeSchema mixedItems (.array (.primitive (.scalar (.word .u8)))) =
        .error (.schemaMismatch (.wrongKind "u8" "str")) ∧
      ∃ enough, ∀ b : Buffer, enough ≤ b.remaining → ∃ b',
        encodeAs nodeSchema mixedItems (.array (.primitive (.scalar (.word .u8)))) b =
          .error (.rejected (.schemaMismatch (.wrongKind "u8" "str"))) b' := by
  have measured : sizeAs nodeSchema nodePair (.struct 0) = .ok 6 := by decide
  have refused : sizeAs nodeSchema mixedItems (.array (.primitive (.scalar (.word .u8)))) =
      .error (.schemaMismatch (.wrongKind "u8" "str")) := by decide
  exact ⟨measured, (encodeAs_agrees_with_sizeAs nodeSchema nodePair).1 _ _ measured, refused,
    (encodeAs_agrees_with_sizeAs nodeSchema mixedItems).2.1 _ _ refused⟩

end SchemaWire.Value

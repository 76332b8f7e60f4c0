import SchemaWire.Proofs.Catalog.Schema
import SchemaWire.Proofs.Layout.Dynamic

/-! The messages of the catalogue are decoded as walking their schema decodes them. -/
namespace SchemaWire

def Message.value (m : Message) (x : m.Owned) : Value := .object m.name (m.fields.entries x)

namespace Catalog

/-- The schema gives every message type its layout. -/
theorem structLayout_messages :
    ∀ m ∈ messages, ∃ k, schema.indexOf? m.name = some k ∧
      schema.structLayout 2 k = some m.layout := by
  intro m known
  simp only [messages, List.mem_cons, List.not_mem_nil, or_false] at known
  obtain rfl | rfl | rfl | rfl := known
  · exact ⟨0, schema_wellFormed.indexOf?_name (d := pointDef) rfl, rfl⟩
  · exact ⟨1, schema_wellFormed.indexOf?_name (d := allPrimitivesDef) rfl, rfl⟩
  · exact ⟨2, schema_wellFormed.indexOf?_name (d := itemDef) rfl, rfl⟩
  · exact ⟨3, schema_wellFormed.indexOf?_name (d := inventoryDef) rfl, rfl⟩

/-- Decoding a message by its layout and walking the schema that the catalogue's document resolves
to give the same value off the same bytes, or fail alike. -/
theorem decode_agrees_with_schema {m : Message} (known : m ∈ messages) {s : Schema}
    (resolved : document.toSchema = .ok s) {k : Nat} (named : s.indexOf? m.name = some k)
    (raw : Bytes) :
    (∃ x c, m.decode raw = .ok x ∧ Value.decode s k raw = .ok (m.value x) ∧
        m.layout.decode (Cursor.ofBytes raw) = .ok x c ∧
        Value.decodeAt s k (Cursor.ofBytes raw) = .ok (m.value x) c) ∨
      ∃ e e', m.decode raw = .error e ∧ Value.decode s k raw = .error e' ∧ e.Alike e' := by
  cases toSchema_document.symm.trans resolved
  obtain ⟨_, found, laid⟩ := structLayout_messages m known
  cases found.symm.trans named
  have deep : 2 ≤ Value.depthBound schema (Cursor.ofBytes raw) :=
    Nat.le_trans (by decide) (Nat.le_mul_of_pos_left 4 (Nat.succ_pos _))
  have parallel := Value.parallel_decodeStruct laid deep
  simp only [Message.decode, Value.decode, Decode.payload]
  cases checkSerializedSize raw.length with
  | error e => exact .inr ⟨e, e, rfl, rfl, .refl e⟩
  | ok =>
      cases run : m.layout.decode (Cursor.ofBytes raw) with
      | ok x c =>
          obtain ⟨v, walked, shown⟩ := parallel.ok run
          cases shown
          change Value.decodeAt schema k (Cursor.ofBytes raw) = _ at walked
          simp only [walked]
          exact .inl ⟨x, c, rfl, rfl, rfl, rfl⟩
      | error e c =>
          obtain ⟨e', c', walked, alike⟩ := parallel.error run
          change Value.decodeAt schema k (Cursor.ofBytes raw) = _ at walked
          simp only [walked]
          exact .inr ⟨e, e', rfl, rfl, alike⟩

/-- An inventory of unknown origin. -/
def sparseBytes : Bytes := [
  3, 0, 0, 0, 65, 100, 97, 0, 1, 0, 0, 0, 7, 0, 0, 0, 0, 0, 0, 0, 1, 0, 0, 0, 2, 0, 0, 0, 195, 169,
  1, 0, 0, 0, 1, 0, 0, 0, 0, 0, 248, 127, 2, 0, 0, 0, 0, 0, 0, 0, 1, 0, 0, 0, 255,
  2, 0, 0, 0, 1, 0]

/-- An item whose last array ends within its second element of three. -/
def cutBytes : Bytes := [
  7, 0, 0, 0, 0, 0, 0, 0, 0, 0, 0, 0, 3, 0, 0, 0, 1, 0, 0, 0, 0, 0, 248, 127, 1, 0]

theorem decode_agrees_with_schema_inventory :
    (∃ x, inventory.decode sparseBytes = .ok x ∧
      Value.decode schema 3 sparseBytes = .ok (inventory.value x)) ∧
    ∃ e, item.decode cutBytes = .error (.unexpectedEnd 40 26) ∧
      Value.decode schema 2 cutBytes = .error e ∧ (WireError.unexpectedEnd 40 26).Alike e := by
  have inventoryKnown : inventory ∈ messages := by simp [messages]
  have itemKnown : item ∈ messages := by simp [messages]
  have third : schema.indexOf? inventory.name = some 3 :=
    schema_wellFormed.indexOf?_name (d := inventoryDef) rfl
  have second : schema.indexOf? item.name = some 2 :=
    schema_wellFormed.indexOf?_name (d := itemDef) rfl
  constructor
  · have valid : (inventory.decode sparseBytes).toOption.isSome = true := by decide +kernel
    obtain ⟨x, c, decoded, walked, -⟩ | ⟨e, e', failed, -⟩ :=
      decode_agrees_with_schema inventoryKnown toSchema_document third sparseBytes
    · exact ⟨x, decoded, walked⟩
    · rw [failed] at valid
      cases valid
  · have cut : item.decode cutBytes = .error (.unexpectedEnd 40 26) := rfl
    obtain ⟨x, c, decoded, -⟩ | ⟨e, e', failed, walked, alike⟩ :=
      decode_agrees_with_schema itemKnown toSchema_document second cutBytes
    · cases decoded.symm.trans cut
    · cases failed.symm.trans cut
      exact ⟨e', cut, walked, alike⟩

end Catalog
end SchemaWire

import SchemaWire.Catalog
import SchemaWire.Proofs.Layout.Stored

/-! The messages of the catalogue in an arena are those of the owned tier. -/
namespace SchemaWire.Catalog

theorem messages_addressable : ∀ m ∈ messages, m.layout.addressable = true := by decide

/-- A message of the largest size uses less of an arena than half of what words can count. -/
theorem messages_weight : ∀ m ∈ messages, m.layout.weight * maxSerializedSize ≤ 2 ^ 63 := by
  decide

/-- No message takes an arena past the last word. -/
theorem room_of_reachable {m : Message} (known : m ∈ messages) {a : Arena}
    (reachable : a.Reachable) : a.used + m.layout.weight * maxSerializedSize < 2 ^ 64 := by
  have used := reachable.used_le
  have weight := messages_weight m known
  unfold Arena.maxCapacity at used
  omega

/-- Decoding a message into an arena fails as decoding it into owned memory does. Otherwise both
decoders stop with the same cursor, and following all handles in the arena that is left gives the
owned value. -/
theorem store_agrees_with_decode {m : Message} (known : m ∈ messages) {a : Arena}
    (reachable : a.Reachable) (raw : Bytes) :
    (∃ e, m.decode raw = .error e ∧ (m.store raw a).1 = .error e) ∨
      ∃ y x c, m.decode raw = .ok y ∧ (m.store raw a).1 = .ok x ∧
        m.layout.decode (Cursor.ofBytes raw) = .ok y c ∧
        m.layout.store ⟨Cursor.ofBytes raw, a⟩ = .ok x ⟨c, (m.store raw a).2⟩ ∧
        m.layout.resolve (m.store raw a).2 x = .ok y :=
  Layout.storePayload_agrees (messages_addressable m known) reachable.sound
    (room_of_reachable known reachable) raw

/-- An item and an inventory of two items, a point, a grid and flags. -/
def itemBytes : Bytes := [
  7, 0, 0, 0, 4, 0, 0, 0, 98, 111, 108, 116, 2, 0, 0, 0, 2, 0, 0, 0, 195, 169, 0, 0, 0, 0,
  1, 0, 0, 0, 1, 0, 0, 0, 0, 0, 248, 127]

def stockBytes : Bytes :=
  [3, 0, 0, 0, 65, 100, 97, 1, 1, 0, 192, 127, 0, 0, 0, 128, 2, 0, 0, 0] ++
    itemBytes ++ itemBytes ++
    [2, 0, 0, 0, 0, 0, 0, 0, 1, 0, 0, 0, 255, 2, 0, 0, 0, 1, 0]

/-- An arena that had to grow, was reset and holds an item. -/
def usedArena : Arena := (item.store itemBytes (item.store itemBytes (.withCapacity 8)).2.reset).2

theorem usedArena_reachable : usedArena.Reachable := by
  have addressable : item.layout.addressable = true := by decide
  have first : (item.store itemBytes (.withCapacity 8)).2.Reachable :=
    (Arena.Reachable.withCapacity (by decide)).of_steps
      (Layout.storePayload_steps addressable (Nat.zero_le _) itemBytes) (by decide +kernel)
  exact first.reset.of_steps
    (Layout.storePayload_steps addressable first.reset.sound itemBytes) (by decide +kernel)

theorem store_agrees_with_decode_stock :
    0 < usedArena.used ∧ ∃ y x, inventory.decode stockBytes = .ok y ∧
      (inventory.store stockBytes usedArena).1 = .ok x ∧
      inventory.layout.resolve (inventory.store stockBytes usedArena).2 x = .ok y := by
  refine ⟨by decide +kernel, ?_⟩
  have valid : (inventory.decode stockBytes).toOption.isSome = true := by decide +kernel
  have known : inventory ∈ messages := by simp [messages]
  obtain ⟨e, failed, -⟩ | ⟨y, x, c, decoded, stored, -, -, resolved⟩ :=
    store_agrees_with_decode known usedArena_reachable stockBytes
  · rw [failed] at valid
    cases valid
  · exact ⟨y, x, decoded, stored, resolved⟩

end SchemaWire.Catalog

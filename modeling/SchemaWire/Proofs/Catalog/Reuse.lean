import SchemaWire.Proofs.Catalog.ArenaTier

/-!
Arenas used again. What a message takes of an arena depends on its bytes alone, so an arena that
was reset after a message has room for the same message.
-/
namespace SchemaWire.Catalog

/-- Decoding a message takes the same amount of every arena and comes to the same value or error.
When the arena is reset and the message decoded again, that amount is in use and the region has not
grown. -/
theorem store_uniform {m : Message} (known : m ∈ messages) (raw : Bytes) :
    ∃ n, (∀ a : Arena, a.Reachable → (m.store raw a).2.used = a.used + n) ∧
      ((∃ e, ∀ a : Arena, a.Reachable → (m.store raw a).1 = .error e) ∨
        ∃ y, ∀ a : Arena, a.Reachable → ∃ x, (m.store raw a).1 = .ok x ∧
          m.layout.resolve (m.store raw a).2 x = .ok y) ∧
      ∀ a first second : Arena, a.Reachable → first = (m.store raw a).2 →
        second = (m.store raw first.reset).2 →
        second.used = n ∧ second.capacity = first.capacity := by
  obtain ⟨n, grows⟩ := Layout.storePayload_grows (messages_addressable m known) raw
  have agrees (a : Arena) (reachable : a.Reachable) :=
    Layout.storePayload_agrees (messages_addressable m known) reachable.sound
      (room_of_reachable known reachable) raw
  refine ⟨n, fun a reachable => (grows a reachable.sound).used, ?_, ?_⟩
  · cases decoded : m.decode raw with
    | error e =>
        refine .inl ⟨e, fun a reachable => ?_⟩
        obtain ⟨e', failed, refused⟩ | ⟨y, x, c, read, -⟩ := agrees a reachable
        · cases decoded.symm.trans failed
          exact refused
        · cases decoded.symm.trans read
    | ok y =>
        refine .inr ⟨y, fun a reachable => ?_⟩
        obtain ⟨e, failed, -⟩ | ⟨y', x, c, read, stored, -, -, resolved⟩ := agrees a reachable
        · cases decoded.symm.trans failed
        · cases decoded.symm.trans read
          exact ⟨x, stored, resolved⟩
  · rintro a _ _ reachable rfl rfl
    have first := grows a reachable.sound
    have second := grows (m.store raw a).2.reset (Nat.zero_le _)
    have used : (m.store raw (m.store raw a).2.reset).2.used = n :=
      second.used.trans (Nat.zero_add n)
    -- The region held what was in use before the first time, and `n` bytes more.
    have fits : (m.store raw (m.store raw a).2.reset).2.used ≤ (m.store raw a).2.reset.capacity :=
      calc (m.store raw (m.store raw a).2.reset).2.used = n := used
        _ ≤ a.used + n := Nat.le_add_left ..
        _ = (m.store raw a).2.used := first.used.symm
        _ ≤ (m.store raw a).2.reset.capacity := first.sound
    have kept : (m.store raw (m.store raw a).2.reset).2.capacity =
        (m.store raw a).2.reset.capacity := Arena.capacity_of_steps second.steps fits
    exact ⟨used, kept⟩

/-- The inventory, cut off in its second item. -/
def cutStock : Bytes := stockBytes.take 80

/-- What is read before the cut takes as much of an arena in use as of a new one. -/
theorem store_uniform_cutStock :
    (∃ e, (inventory.store cutStock (.withCapacity 0)).1 = .error e ∧
        (inventory.store cutStock usedArena).1 = .error e) ∧
      (inventory.store cutStock (.withCapacity 0)).2.used = 256 ∧
      (inventory.store cutStock usedArena).2.used = usedArena.used + 256 ∧
      (inventory.store cutStock (inventory.store cutStock usedArena).2.reset).2.capacity =
        (inventory.store cutStock usedArena).2.capacity := by
  have known : inventory ∈ messages := by simp [messages]
  have fresh : (Arena.withCapacity 0).Reachable := .withCapacity (Nat.zero_le _)
  have taken : (inventory.store cutStock (.withCapacity 0)).2.used = 256 := by decide +kernel
  have failed : (inventory.store cutStock (.withCapacity 0)).1.toOption.isNone = true := by
    decide +kernel
  obtain ⟨n, takes, outcome, again⟩ := store_uniform known cutStock
  have amount := takes (.withCapacity 0) fresh
  rw [taken, Arena.withCapacity, Nat.zero_add] at amount
  rw [← amount] at takes
  refine ⟨?_, taken, takes usedArena usedArena_reachable,
    (again usedArena _ _ usedArena_reachable rfl rfl).2⟩
  obtain ⟨e, refused⟩ | ⟨y, stored⟩ := outcome
  · exact ⟨e, refused _ fresh, refused _ usedArena_reachable⟩
  · obtain ⟨x, ok, -⟩ := stored _ fresh
    rw [ok] at failed
    cases failed

end SchemaWire.Catalog

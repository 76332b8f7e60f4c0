import SchemaWire.Proofs.Arena.History

/-!
Stale handles. Generations are counted in 32 bits, so a handle is told from those of the present
generation exactly if the number of resets since it was issued is no multiple of `2^32`.
-/
namespace SchemaWire

theorem View.checkElements_ne_stale (t : ScalarType) (count : Nat) (raw : Bytes) :
    View.checkElements t count raw ≠ .error .staleHandle := by
  induction count generalizing raw with
  | zero =>
      intro stale
      cases stale
  | succ count ih =>
      intro stale
      rw [View.checkElements] at stale
      split at stale
      · exact ih _ stale
      · next e checked =>
          cases stale
          cases t with
          | word w => cases checked
          | bool =>
              rw [ScalarType.check] at checked
              split at checked
              · cases checked
              · cases checked

theorem View.ofBytes_ne_stale (t : ScalarType) (raw : Bytes) :
    View.ofBytes t raw ≠ .error .staleHandle := by
  intro stale
  simp only [View.ofBytes] at stale
  split at stale
  · cases stale
  · split at stale
    · cases stale
    · next e checked =>
        obtain rfl := Except.error.inj stale
        exact View.checkElements_ne_stale t _ raw checked

/-- How many bytes of the arena one element takes. -/
def Content.width : Content → Nat
  | .text _ => 1
  | .packed t _ => t.size
  | .records item _ => item.recordSize

namespace Issued

/-- Resolving the handle is refused because what it named was released. -/
def Stale (a : Arena) : Issued → Prop
  | ⟨h, .text _⟩ => a.text h = .error .staleHandle
  | ⟨h, .packed t _⟩ => a.view t h = .error .staleHandle
  | ⟨h, .records item _⟩ => a.records item h = .error .staleHandle

/-- Nothing but the check of the handle itself reports it as stale. -/
theorem stale_iff_block {a : Arena} {i : Issued} :
    i.Stale a ↔ a.block i.handle i.content.width = .error .staleHandle := by
  obtain ⟨h, content⟩ := i
  cases content with
  | text s =>
      refine except_bind_eq_error fun raw stale => ?_
      cases decoded : textOfBytes? raw with
      | none =>
          rw [decoded] at stale
          cases stale
      | some s =>
          rw [decoded] at stale
          cases stale
  | packed t xs => exact except_bind_eq_error fun raw => View.ofBytes_ne_stale t raw
  | records item xs =>
      refine except_bind_eq_error fun raw stale => ?_
      cases stale

end Issued

namespace Arena

theorem block_eq_stale_iff {a : Arena} {h : Handle} {width : Nat} :
    a.block h width = .error .staleHandle ↔
      h.generation ≠ a.generation ∨ a.used < h.offset + h.length * width := by
  simp only [block]
  split
  · next refused =>
      simpa using refused
  · next accepted =>
      simpa using accepted

def resets (history : List Event) : Nat :=
  history.countP fun event => match event with
    | .request _ => false
    | .reset => true

theorem add_one_add_ofNat (g : UInt32) (n : Nat) :
    g + 1 + UInt32.ofNat n = g + UInt32.ofNat (n + 1) := by
  have one : UInt32.ofNat 1 = 1 := rfl
  rw [UInt32.ofNat_add, one, UInt32.add_assoc, UInt32.add_comm 1]

theorem run_generation {a : Arena} (sound : a.Sound) (history : List Event) :
    (a.run history).generation = a.generation + UInt32.ofNat (resets history) := by
  induction history generalizing a with
  | nil => exact (UInt32.add_zero _).symm
  | cons event rest ih =>
      have later : (a.run (event :: rest)).generation =
          (a.apply event).generation + UInt32.ofNat (resets rest) := ih (apply_sound sound event)
      cases event with
      | request r =>
          obtain ⟨n, ext⟩ := r.perform_extends sound
          have counted : resets (.request r :: rest) = resets rest :=
            List.countP_cons_of_neg Bool.false_ne_true
          rw [later, counted, apply, ext.generation]
      | reset =>
          have counted : resets (.reset :: rest) = resets rest + 1 := List.countP_cons_of_pos rfl
          rw [later, counted, ← add_one_add_ofNat, apply, reset]

theorem eq_add_ofNat_iff (g : UInt32) (n : Nat) : g = g + UInt32.ofNat n ↔ n % 2 ^ 32 = 0 := by
  rw [← UInt32.toNat_inj, UInt32.toNat_add, UInt32.toNat_ofNat']
  have bound := g.toNat_lt
  omega

/-- A handle is stale exactly if the resets since it was issued are no multiple of `2^32`, or if
less of the arena is in use than reaches to the end of what it named. -/
theorem stale_iff (capacity : Nat) (before : List Event) (r : Request) {i : Issued}
    (issued : r.Issues ((withCapacity capacity).run before) i) (later : List Event) :
    i.Stale ((withCapacity capacity).run (before ++ .request r :: later)) ↔
      resets later % 2 ^ 32 ≠ 0 ∨
        ((withCapacity capacity).run (before ++ .request r :: later)).used <
          i.handle.offset + i.handle.length * i.content.width := by
  have sound := run_sound (withCapacity_sound capacity) before
  obtain ⟨n, ext⟩ := r.perform_extends sound
  have kept := r.issues_kept sound issued (.refl _ _)
  rw [Issued.stale_iff_block, block_eq_stale_iff, run_append]
  have generation : (((withCapacity capacity).run before).run (.request r :: later)).generation =
      i.handle.generation + UInt32.ofNat (resets later) := by
    rw [kept.fresh]
    exact run_generation ext.sound later
  rw [generation, ne_eq, eq_add_ofNat_iff]

/-- One reset is enough for what was just copied. -/
theorem stale_iff_gone :
    resets [.reset] % 2 ^ 32 ≠ 0 ∧
      ((withCapacity 0).run [.request (.text "gone"), .reset]).text ⟨0, 4, 0⟩ =
        .error .staleHandle := by
  have counted : resets [.reset] % 2 ^ 32 ≠ 0 := by decide
  have stale := (stale_iff 0 [] (.text "gone") rfl [.reset]).mpr (.inl counted)
  exact ⟨counted, stale⟩

theorem run_resets (a : Arena) (n : Nat) :
    a.run (List.replicate (n + 1) .reset) =
      { a with used := 0, generation := a.generation + UInt32.ofNat (n + 1) } := by
  induction n generalizing a with
  | zero => rfl
  | succ n ih =>
      have next : a.run (List.replicate (n + 2) .reset) =
          a.reset.run (List.replicate (n + 1) .reset) := rfl
      rw [next, ih, ← add_one_add_ofNat _ (n + 1), reset]

/-- Between two texts the arena is reset `n + 1` times. -/
def recycled (n : Nat) : List Event :=
  .reset :: .request (.text "gone") ::
    (List.replicate (n + 1) .reset ++ [.request (.text "here")])

theorem text_recycled {n : Nat} (whole : (n + 1) % 2 ^ 32 = 0) :
    ((withCapacity 0).run (recycled n)).text ⟨0, 4, 1⟩ = .ok "here" := by
  have again : (1 : UInt32) + UInt32.ofNat (n + 1) = 1 :=
    ((eq_add_ofNat_iff 1 (n + 1)).mpr whole).symm
  have parts : (withCapacity 0).run (recycled n) =
      (((withCapacity 0).reset.allocText "gone").2.run (List.replicate (n + 1) .reset)).run
        [.request (.text "here")] := run_append ..
  have generation : ((withCapacity 0).reset.allocText "gone").2.generation = 1 := rfl
  rw [parts, run_resets, generation, again]
  decide +kernel

/-- After `2^32` resets the handle of a text that is gone resolves to another one. -/
theorem gone_resolves_to_here :
    (Request.text "gone").Issues ((withCapacity 0).run [.reset]) ⟨⟨0, 4, 1⟩, .text "gone"⟩ ∧
      ((withCapacity 0).run (.reset :: .request (.text "gone") ::
        (List.replicate 4294967296 .reset ++ [.request (.text "here")]))).text ⟨0, 4, 1⟩ =
        .ok "here" :=
  ⟨rfl, text_recycled (n := 4294967295) (by decide)⟩

end Arena
end SchemaWire

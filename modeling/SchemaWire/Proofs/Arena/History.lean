import SchemaWire.Message
import SchemaWire.Proofs.Layout.Issued

/-!
Histories of an arena: requests of all kinds, in any order, with resets between them. Until the next
reset every handle issued resolves to what it was issued for.
-/
namespace SchemaWire

def byteWords (raw : Bytes) : List (ScalarType.word .u8).Carrier := raw.map UInt8.toBitVec

theorem flatMap_byteWords (raw : Bytes) :
    (byteWords raw).flatMap (ScalarType.toBytes (.word .u8)) = raw := by
  induction raw with
  | nil => rfl
  | cons byte rest ih =>
      change UInt8.ofNat byte.toNat :: (byteWords rest).flatMap _ = byte :: rest
      rw [ih, UInt8.ofNat_toNat]

namespace Arena

theorem allocPacked_eq (t : ScalarType) (xs : List t.Carrier) (a : Arena) :
    a.allocPacked t xs = a.allocView (View.pack t xs) := by
  rw [allocPacked, allocView, View.pack_length, View.pack]

theorem allocBytes_eq (raw : Bytes) (a : Arena) :
    a.allocBytes raw = a.allocPacked (.word .u8) (byteWords raw) := by
  have counted : (byteWords raw).length = raw.length := List.length_map ..
  rw [allocBytes, allocPacked, flatMap_byteWords, counted]

end Arena

namespace Message

variable {m : Message} {raw : Bytes} {a : Arena}

theorem store_of_lt (large : maxSerializedSize < raw.length) :
    m.store raw a = (.error (.dataTooLarge raw.length), a) := by
  have refused : checkSerializedSize raw.length = .error (.dataTooLarge raw.length) := if_pos large
  simp only [store, Layout.storePayload, refused]

section Small

variable (small : raw.length ≤ maxSerializedSize)
include small

theorem store_of_ok {x : m.layout.Stored} {s : ArenaCursor}
    (run : m.layout.store ⟨.ofBytes raw, a⟩ = .ok x s) : m.store raw a = (.ok x, s.arena) := by
  have sized : checkSerializedSize raw.length = .ok () := if_neg (Nat.not_lt_of_le small)
  simp only [store, Layout.storePayload, sized, run]

theorem store_of_error {e : WireError} {s : ArenaCursor}
    (run : m.layout.store ⟨.ofBytes raw, a⟩ = .error e s) :
    m.store raw a = (.error e, s.arena) := by
  have sized : checkSerializedSize raw.length = .ok () := if_neg (Nat.not_lt_of_le small)
  simp only [store, Layout.storePayload, sized, run]

theorem arena_store :
    (m.store raw a).2 = (m.layout.store.after ⟨.ofBytes raw, a⟩).arena := by
  cases run : m.layout.store ⟨.ofBytes raw, a⟩ with
  | ok x s => rw [store_of_ok small run, ArenaDecode.after_of_ok run]
  | error e s => rw [store_of_error small run, ArenaDecode.after_of_error run]

end Small
end Message

/-- What can be asked of an arena. Values are read at any cursor, or decoded from a payload. -/
inductive Request where
  | alloc (size : Nat)
  | bytes (raw : Bytes)
  | text (s : String)
  | packed (t : ScalarType) (xs : List t.Carrier)
  | view {t : ScalarType} (v : View t) (valid : View.ofBytes t v.bytes = .ok v)
  | read (l : Layout) (addressable : l.addressable = true) (c : Cursor)
  | decode (m : Message) (addressable : m.layout.addressable = true) (raw : Bytes)

namespace Request

def perform : Request → Arena → Arena
  | .alloc size, a => (a.alloc size).2
  | .bytes raw, a => (a.allocBytes raw).2
  | .text s, a => (a.allocText s).2
  | .packed t xs, a => (a.allocPacked t xs).2
  | .view v _, a => (a.allocView v).2
  | .read l _ c, a => (l.store.after ⟨c, a⟩).arena
  | .decode m _ raw, a => (m.store raw a).2

/-- The value that a request returns, if it returns one with handles. -/
def returned : Request → Arena → Option ((l : Layout) × l.Stored)
  | .alloc _, _ => none
  | .bytes raw, a => some ⟨.packed (.word .u8), (a.allocBytes raw).1⟩
  | .text s, a => some ⟨.text, (a.allocText s).1⟩
  | .packed t xs, a => some ⟨.packed t, (a.allocPacked t xs).1⟩
  | .view (t := t) v _, a => some ⟨.packed t, (a.allocView v).1⟩
  | .read l _ c, a =>
    match l.store ⟨c, a⟩ with
    | .ok x _ => some ⟨l, x⟩
    | .error _ _ => none
  | .decode m _ raw, a =>
    match (m.store raw a).1 with
    | .ok x => some ⟨m.layout, x⟩
    | .error _ => none

/-- The handles issued for a request, also for one that fails. -/
def Issues : Request → Arena → Issued → Prop
  | .alloc _, _, _ => False
  | .bytes raw, a, i =>
    i = ⟨(a.allocBytes raw).1, .packed (.word .u8) (byteWords raw)⟩
  | .text s, a, i => i = ⟨(a.allocText s).1, .text s⟩
  | .packed t xs, a, i => i = ⟨(a.allocPacked t xs).1, .packed t xs⟩
  | .view (t := t) v _, a, i => i = ⟨(a.allocView v).1, .packed t v.toList⟩
  | .read l _ c, a, i => l.Issues ⟨c, a⟩ i
  | .decode m _ raw, a, i =>
    raw.length ≤ maxSerializedSize ∧ m.layout.Issues ⟨.ofBytes raw, a⟩ i

variable {a b : Arena}

/-- No request touches what is in use. -/
theorem perform_extends (sound : a.Sound) (r : Request) : ∃ n, a.Extends n (r.perform a) := by
  cases r with
  | alloc size => exact ⟨_, Arena.alloc_extends sound size⟩
  | bytes raw => exact ⟨_, (Arena.allocAs_spec sound _ _).1⟩
  | text s => exact ⟨_, (Arena.allocAs_spec sound _ _).1⟩
  | packed t xs => exact ⟨_, (Arena.allocAs_spec sound _ _).1⟩
  | view v valid => exact ⟨_, (Arena.allocAs_spec sound _ _).1⟩
  | read l addressable c => exact (l.mirrors addressable (Nat.le_refl _)).extending ⟨c, a⟩ sound
  | decode m addressable raw =>
      rcases Nat.lt_or_ge maxSerializedSize raw.length with large | small
      · rw [perform, Message.store_of_lt large]
        exact ⟨0, .refl sound⟩
      · rw [perform, Message.arena_store small]
        exact (m.layout.mirrors addressable (Nat.le_refl _)).extending ⟨.ofBytes raw, a⟩ sound

/-- Where all that a request allocated is kept, so are the handles issued for it. -/
theorem issues_kept (sound : a.Sound) {r : Request} {i : Issued} (issued : r.Issues a i)
    (agrees : (r.perform a).Agrees a.used b) : i.Kept b := by
  cases r with
  | alloc size => cases issued
  | bytes raw =>
      cases issued
      rw [perform, Arena.allocBytes_eq, Arena.allocPacked_eq] at agrees
      have kept := Issued.kept_view sound (View.ofBytes_pack _) agrees
      rwa [View.toList_pack, ← Arena.allocPacked_eq, ← Arena.allocBytes_eq] at kept
  | text s =>
      cases issued
      exact Issued.kept_text sound s agrees
  | packed t xs =>
      cases issued
      rw [perform, Arena.allocPacked_eq] at agrees
      have kept := Issued.kept_view sound (View.ofBytes_pack _) agrees
      rwa [View.toList_pack, ← Arena.allocPacked_eq] at kept
  | view v valid =>
      cases issued
      exact Issued.kept_view sound valid agrees
  | read l addressable c => exact l.keeps addressable issued sound agrees
  | decode m addressable raw =>
      obtain ⟨small, issued⟩ := issued
      rw [perform, Message.arena_store small] at agrees
      exact m.layout.keeps addressable issued sound agrees

/-- Everything that is returned was issued. -/
theorem returned_covered {r : Request} {x : (l : Layout) × l.Stored}
    (returned : r.returned a = some x) : x.1.Covered (r.Issues a) x.2 := by
  cases r with
  | alloc size => cases returned
  | bytes raw =>
      cases returned
      exact ⟨_, rfl⟩
  | text s =>
      cases returned
      exact ⟨_, rfl⟩
  | packed t xs =>
      cases returned
      exact ⟨_, rfl⟩
  | view v valid =>
      cases returned
      exact ⟨_, rfl⟩
  | read l addressable c =>
      rw [Request.returned] at returned
      split at returned
      · next stored =>
          cases returned
          exact l.covered stored
      · cases returned
  | decode m addressable raw =>
      rw [Request.returned] at returned
      rcases Nat.lt_or_ge maxSerializedSize raw.length with large | small
      · rw [Message.store_of_lt large] at returned
        cases returned
      · cases run : m.layout.store ⟨.ofBytes raw, a⟩ with
        | ok y s =>
            rw [Message.store_of_ok small run] at returned
            cases returned
            exact Layout.Covered.mono (fun _ issued => ⟨small, issued⟩) m.layout
              (m.layout.covered run)
        | error e s =>
            rw [Message.store_of_error small run] at returned
            cases returned

end Request

inductive Event where
  | request (r : Request)
  | reset

namespace Arena

def apply (a : Arena) : Event → Arena
  | .request r => r.perform a
  | .reset => a.reset

def run (a : Arena) (history : List Event) : Arena := history.foldl apply a

variable {a : Arena}

theorem run_append (a : Arena) (first second : List Event) :
    a.run (first ++ second) = (a.run first).run second :=
  List.foldl_append

theorem apply_sound (sound : a.Sound) (event : Event) : (a.apply event).Sound := by
  cases event with
  | request r =>
      obtain ⟨n, ext⟩ := r.perform_extends sound
      exact ext.sound
  | reset => exact Nat.zero_le _

theorem withCapacity_sound (capacity : Nat) : (withCapacity capacity).Sound := Nat.zero_le _

theorem run_sound (sound : a.Sound) (history : List Event) : (a.run history).Sound := by
  induction history generalizing a with
  | nil => exact sound
  | cons event rest ih => exact ih (apply_sound sound event)

/-- Between two resets an arena only grows. -/
theorem run_extends (sound : a.Sound) {history : List Event} (unreset : .reset ∉ history) :
    ∃ n, a.Extends n (a.run history) := by
  induction history generalizing a with
  | nil => exact ⟨0, .refl sound⟩
  | cons event rest ih =>
      have later : .reset ∉ rest := fun member => unreset (List.mem_cons_of_mem event member)
      cases event with
      | reset => exact absurd (List.mem_cons_self ..) unreset
      | request r =>
          obtain ⟨n, ext⟩ := r.perform_extends sound
          obtain ⟨m, ext'⟩ := ih ext.sound later
          exact ⟨n + m, ext.trans ext'⟩

/-- Whatever a request returns consists of handles issued for it, and every handle issued for a
request, granted or failed, resolves to what it was issued for until the next reset. -/
theorem resolves_until_reset (capacity : Nat) (before : List Event) (r : Request) :
    (∀ x, r.returned ((withCapacity capacity).run before) = some x →
      x.1.Covered (r.Issues ((withCapacity capacity).run before)) x.2) ∧
    ∀ i, r.Issues ((withCapacity capacity).run before) i → ∀ later, .reset ∉ later →
      ((withCapacity capacity).run (before ++ .request r :: later)).used < 2 ^ 64 →
      i.Resolves ((withCapacity capacity).run (before ++ .request r :: later)) := by
  have sound := run_sound (withCapacity_sound capacity) before
  refine ⟨fun x returned => r.returned_covered returned, ?_⟩
  intro i issued later unreset small
  rw [run_append] at small ⊢
  obtain ⟨n, ext⟩ := r.perform_extends sound
  obtain ⟨m, ext'⟩ := run_extends ext.sound unreset
  have kept := r.issues_kept sound issued (ext'.agrees (.refl _ _))
  exact kept.resolves small

/-- A list of two texts, the second of which is missing. -/
def cutTexts : Cursor := .ofBytes [2, 0, 0, 0, 2, 0, 0, 0, 195, 169]

def earlier : List Event :=
  [.request (.text "gone"), .reset, .request (.packed (.word .u16) [1, 2, 3, 4, 5])]

theorem cutTexts_issues : (Request.read (.list .text) rfl cutTexts).Issues
    ((withCapacity 8).run earlier) ⟨⟨56, 2, 1⟩, .text "é"⟩ := by
  have opened : Layout.openList .text ⟨cutTexts, (withCapacity 8).run earlier⟩ =
      .ok ⟨16, 2, 1⟩
        ⟨⟨[2, 0, 0, 0, 195, 169], 4, 2⟩, (((withCapacity 8).run earlier).alloc 40).2⟩ := rfl
  have read : Decode.text ⟨[2, 0, 0, 0, 195, 169], 4, 2⟩ = .ok "é" ⟨[], 10, 2⟩ := rfl
  have handle : ((((withCapacity 8).run earlier).alloc 40).2.allocText "é").1 = ⟨56, 2, 1⟩ := by
    decide +kernel
  exact .element opened (.none _ _) (by decide) (handle ▸ .text read)

/-- The first text of a list keeps its handle though the list fails and the region grows. -/
theorem resolves_until_reset_cutTexts :
    ((Request.read (.list .text) rfl cutTexts).returned ((withCapacity 8).run earlier)).isNone ∧
      (Request.read (.list .text) rfl cutTexts).Issues ((withCapacity 8).run earlier)
        ⟨⟨56, 2, 1⟩, .text "é"⟩ ∧
      ((withCapacity 8).run (earlier ++ .request (.read (.list .text) rfl cutTexts) ::
        [.request (.alloc 100), .request (.bytes [1, 2, 3])])).text ⟨56, 2, 1⟩ = .ok "é" := by
  refine ⟨rfl, cutTexts_issues, ?_⟩
  exact (resolves_until_reset 8 earlier (.read (.list .text) rfl cutTexts)).2 _ cutTexts_issues _
    (by simp) (by decide +kernel)

end Arena
end SchemaWire

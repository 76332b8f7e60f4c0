import SchemaWire.Proofs.Layout.Mirror
import SchemaWire.Proofs.Wire.View

/-!
The arena tier mirrors the owned one: following the handles of a stored value gives the value that
the owned tier decodes from the same bytes.
-/
namespace SchemaWire

open ArenaDecode (Mirrors)

mutual

/-- The records of lists have a byte at least, so that their number shows. -/
def Layout.addressable : Layout → Bool
  | .scalar _ | .text | .packed _ => true
  | .list item => decide (0 < item.recordSize) && item.addressable
  | .option item => item.addressable
  | .record _ fields => fields.addressable

def Fields.addressable : Fields → Bool
  | .nil => true
  | .cons _ layout rest => layout.addressable && rest.addressable

end

mutual

/-- Each byte read pays for this much of an arena. -/
def Layout.weight : Layout → Nat
  | .scalar _ => 0
  | .text | .packed _ => 2
  | .list item => maxArrayElements * item.recordSize + 7 + item.weight
  | .option item => item.weight
  | .record _ fields => fields.weight

def Fields.weight : Fields → Nat
  | .nil => 0
  | .cons _ layout rest => layout.weight + rest.weight

end

/-- A stored value stands for the owned one that its handles lead to. -/
def Layout.Stands (l : Layout) (b : Arena) (x : l.Stored) (y : l.Owned) : Prop :=
  l.Fits x ∧ l.resolve b x = .ok y

def Fields.Stands (fs : Fields) (b : Arena) (x : fs.Stored) (y : fs.Owned) : Prop :=
  fs.Fits x ∧ fs.resolve b x = .ok y

theorem mapM_of_forall₂ {ε α β : Type} {f : α → Except ε β} {xs : List α} {ys : List β}
    (h : List.Forall₂ (fun x y => f x = .ok y) xs ys) : xs.mapM f = .ok ys := by
  induction h with
  | nil => rfl
  | cons head tail ih => simp only [List.mapM_cons, head, ih, bind, Except.bind, pure, Except.pure]

namespace Handle.Leads

variable {h : Handle} {b : Arena}

theorem text {s : String} (leads : h.Leads b (bytesOfText s))
    (sized : h.length = (bytesOfText s).length) : b.text h = .ok s := by
  have bytes := leads.block 1 (by rw [sized, Nat.mul_one])
  simp only [Arena.text, bytes, bind, Except.bind, textOfBytes?_bytesOfText, pure, Except.pure]

theorem view {t : ScalarType} {v : View t} (leads : h.Leads b v.bytes) (sized : h.length = v.length)
    (valid : View.ofBytes t v.bytes = .ok v) : b.view t h = .ok v := by
  obtain ⟨-, whole⟩ := View.ofBytes_eq_ok valid
  have bytes := leads.block t.size (by rw [sized, whole])
  simp only [Arena.view, bytes, bind, Except.bind, valid]

theorem records {item : Layout} {xs : List item.Stored}
    (leads : h.Leads b (xs.flatMap item.recordBytes)) (sized : h.length = xs.length)
    (solid : 0 < item.recordSize) : b.records item h = .ok (xs.map item.recordBytes) := by
  have length := length_flatMap_of_sized item.recordBytes_length xs
  have bytes := leads.block item.recordSize (by rw [length, sized])
  have cut := blocks_flatMap item.recordBytes_length xs []
  simp only [Arena.records, bytes, bind, Except.bind, pure, Except.pure, length,
    Nat.mul_div_cancel _ solid, cut, List.reverse_nil, List.nil_append]

theorem fits_of_stands {item : Layout} {xs : List item.Stored} {ys : List item.Owned}
    (each : List.Forall₂ (item.Stands b) xs ys) : ∀ x ∈ xs, item.Fits x := by
  induction each with
  | nil => exact fun _ member => absurd member List.not_mem_nil
  | cons head tail ih => exact List.forall_mem_cons.mpr ⟨head.1, ih⟩

/-- Records that lie back to back behind a handle stand for the list of what each stands for. -/
theorem stands {item : Layout} {xs : List item.Stored} {ys : List item.Owned}
    (leads : h.Leads b (xs.flatMap item.recordBytes)) (sized : h.length = xs.length)
    (solid : 0 < item.recordSize) (each : List.Forall₂ (item.Stands b) xs ys) :
    Layout.Stands (.list item) b h ys := by
  refine ⟨leads.fits, ?_⟩
  have read : (xs.map item.recordBytes).mapM item.ofRecord = .ok xs := by
    apply mapM_of_forall₂
    rw [List.forall₂_map_left_iff, List.forall₂_same]
    exact fun x member => Layout.ofRecord_recordBytes (fits_of_stands each x member)
  have resolved : xs.mapM (item.resolve b) = .ok ys :=
    mapM_of_forall₂ (each.imp fun _ _ stands => stands.2)
  rw [Layout.resolve]
  simp only [leads.records sized solid, bind, Except.bind, read, resolved]
  rfl

end Handle.Leads

theorem mirrors_scalar (t : ScalarType) (weight : Nat) :
    Mirrors (Layout.store (.scalar t)) (Layout.decode (.scalar t)) weight 0
      (Layout.Stands (.scalar t)) := by
  refine (Mirrors.of_read (Decode.accepts_scalar t)).imp ?_
  rintro b x y rfl
  exact ⟨trivial, rfl⟩

theorem mirrors_text {weight : Nat} (heavy : 2 ≤ weight) :
    Mirrors (Layout.store .text) (Layout.decode .text) weight 0 (Layout.Stands .text) := by
  have copy : ∀ raw k s, (raw = textBytes s ∧ k = 0 ∧ (bytesOfText s).length < 2 ^ 32) →
      Mirrors (ArenaDecode.allocate (·.allocText s)) (pure s) weight (0 + raw.length)
        (Layout.Stands .text) := by
    rintro _ _ s ⟨rfl, rfl, -⟩
    refine Mirrors.allocAs (Nat.le_refl _) ?_ ?_
    · rw [textBytes_length, bytesOfText_length]
      calc s.utf8ByteSize + 7 ≤ 2 * (0 + (4 + s.utf8ByteSize)) := by omega
        _ ≤ weight * (0 + (4 + s.utf8ByteSize)) := Nat.mul_le_mul_right _ heavy
    · intro b h sized leads
      exact ⟨leads.fits, leads.text sized⟩
  have whole := Mirrors.read_bind Decode.accepts_text copy
  rwa [bind_pure] at whole

theorem mirrors_packed (t : ScalarType) {weight : Nat} (heavy : 2 ≤ weight) :
    Mirrors (Layout.store (.packed t)) (Layout.decode (.packed t)) weight 0
      (Layout.Stands (.packed t)) := by
  refine Mirrors.read_bind (Decode.accepts_view t) ?_
  rintro _ _ v ⟨rfl, rfl, -, valid⟩
  refine Mirrors.allocAs (Nat.div_le_self ..) ?_ ?_
  · rw [List.length_append, littleEndian_length]
    calc v.bytes.length + 7 ≤ 2 * (0 + (4 + v.bytes.length)) := by omega
      _ ≤ weight * (0 + (4 + v.bytes.length)) := Nat.mul_le_mul_right _ heavy
  · intro b h sized leads
    refine ⟨leads.fits, ?_⟩
    rw [Layout.resolve, leads.view sized valid]
    rfl

section List

variable {item : Layout} {weight : Nat}
  (each : Mirrors item.store item.decode weight 0 item.Stands) (solid : 0 < item.recordSize)
include each solid

/-- Reserving the records of a list and filling them in. The count was read before and pays for
the room. -/
theorem mirrors_block {count : Nat} (heavy : count * item.recordSize + 7 ≤ weight) :
    Mirrors (do
        let h ← ArenaDecode.allocate fun a =>
          ((⟨(a.alloc (count * item.recordSize)).1, count, a.generation⟩ : Handle),
            (a.alloc (count * item.recordSize)).2)
        ArenaDecode.records item.store item.recordBytes item.recordSize count h.offset
        return h)
      (Decode.times item.decode count []) weight 4 (Layout.Stands (.list item)) where
  ok := by
    intro c c' ys run
    obtain ⟨n, raw, k, adv, paid, from_any⟩ :=
      Mirrors.records_of_ok each item.recordBytes_length run
    have rounded := Arena.roundUp_le (count * item.recordSize)
    have enough := Arena.le_roundUp (count * item.recordSize)
    refine ⟨Arena.roundUp (count * item.recordSize) + n, raw, k, adv, ?_, ?_⟩
    · -- One byte of the count pays for the room.
      rw [Nat.mul_add]
      omega
    · intro a sound
      have room := Arena.alloc_extends sound (count * item.recordSize)
      have reserved := room.used
      obtain ⟨xs, zs, a', run', listed, counted, fills, stands⟩ :=
        from_any (a.alloc (count * item.recordSize)).2 a.used
          (a.used + Arena.roundUp (count * item.recordSize)) room.sound (by omega) (by omega)
      have used := fills.used
      have length := length_flatMap_of_sized item.recordBytes_length xs
      rw [counted] at length
      refine ⟨⟨a.used, count, a.generation⟩, a', ?_, room.fills_unused fills, ?_⟩
      · exact bind_of_ok run'
      · intro small b agrees
        have later := agrees.used
        have count_le : count ≤ count * item.recordSize := Nat.le_mul_of_pos_right _ solid
        have within : a.used + (xs.flatMap item.recordBytes).length ≤ a'.used := by omega
        cases listed
        refine Handle.Leads.stands ⟨⟨?_, ?_⟩, ?_, ?_, ?_⟩ counted.symm solid
          (stands small b (agrees.mono (by omega)))
        · show a.used < 2 ^ 64
          omega
        · show count < 2 ^ 64
          omega
        · exact (agrees.generation.trans (fills.generation.trans room.generation)).symm
        · exact Nat.le_trans within later
        · exact agrees.has fills.has (Nat.le_refl _) within
  error := by
    intro c c' f run
    obtain ⟨n, from_any⟩ := Mirrors.records_of_error each item.recordBytes_length run
    have enough := Arena.le_roundUp (count * item.recordSize)
    refine ⟨Arena.roundUp (count * item.recordSize) + n, ?_⟩
    intro a sound
    have room := Arena.alloc_extends sound (count * item.recordSize)
    have reserved := room.used
    obtain ⟨a', run', grows, bytes⟩ :=
      from_any (a.alloc (count * item.recordSize)).2 a.used
        (a.used + Arena.roundUp (count * item.recordSize)) room.sound (by omega) (by omega)
    refine ⟨a', (bind_of_ok rfl).trans (bind_of_error run'), room.toGrows.trans grows, ?_⟩
    intro i inside
    rw [bytes i inside, room.bytes i inside]

theorem mirrors_list (heavy : maxArrayElements * item.recordSize + 7 ≤ weight) :
    Mirrors (Layout.store (.list item)) (Layout.decode (.list item)) weight 0
      (Layout.Stands (.list item)) := by
  refine Mirrors.read_bind Decode.accepts_count ?_
  rintro _ _ count ⟨rfl, rfl, small⟩
  refine Mirrors.read_bind (Decode.accepts_expect _) ?_
  rintro _ _ _ ⟨rfl, rfl⟩
  refine mirrors_block each solid (Nat.le_trans ?_ heavy)
  exact Nat.add_le_add_right (Nat.mul_le_mul_right _ small) 7

end List

theorem mirrors_option {item : Layout} {weight : Nat}
    (h : Mirrors item.store item.decode weight 0 item.Stands) :
    Mirrors (Layout.store (.option item)) (Layout.decode (.option item)) weight 0
      (Layout.Stands (.option item)) := by
  refine Mirrors.read_bind (Decode.accepts_scalar .bool) ?_
  rintro _ _ present ⟨rfl, rfl⟩
  cases present with
  | false => exact Mirrors.pure fun b => ⟨trivial, rfl⟩
  | true =>
      have present : ∀ b x y, item.Stands b x y →
          Layout.Stands (.option item) b (some x) (some y) := by
        rintro b x y ⟨fits, resolved⟩
        refine ⟨fits, ?_⟩
        simp only [Layout.resolve, resolved, bind, Except.bind, pure, Except.pure]
      exact h.with_credit.map some some present

theorem mirrors_cons {name : String} {layout : Layout} {rest : Fields} {weight : Nat}
    (head : Mirrors layout.store layout.decode weight 0 layout.Stands)
    (tail : Mirrors rest.store rest.decode weight 0 rest.Stands) :
    Mirrors (Fields.store (.cons name layout rest)) (Fields.decode (.cons name layout rest))
      weight 0 (Fields.Stands (.cons name layout rest)) := by
  refine (head.pair tail).imp ?_
  rintro b ⟨x, xs⟩ ⟨y, ys⟩ ⟨⟨fits, resolved⟩, fitss, resolveds⟩
  refine ⟨⟨fits, fitss⟩, ?_⟩
  simp only [Fields.resolve, resolved, resolveds, bind, Except.bind, pure, Except.pure]

mutual

/-- Storing a value mirrors decoding it. -/
theorem Layout.mirrors : (l : Layout) → l.addressable = true → ∀ {weight : Nat}, l.weight ≤ weight →
    Mirrors l.store l.decode weight 0 l.Stands
  | .scalar t, _, weight, _ => mirrors_scalar t weight
  | .text, _, _, heavy => mirrors_text heavy
  | .packed t, _, _, heavy => mirrors_packed t heavy
  | .list item, addressable, weight, heavy => by
      rw [Layout.addressable, Bool.and_eq_true, decide_eq_true_eq] at addressable
      rw [Layout.weight] at heavy
      exact mirrors_list (item.mirrors addressable.2 (by omega)) addressable.1 (by omega)
  | .option item, addressable, _, heavy => mirrors_option (item.mirrors addressable heavy)
  | .record _ fields, addressable, _, heavy => fields.mirrors addressable heavy

theorem Fields.mirrors : (fs : Fields) → fs.addressable = true → ∀ {weight : Nat},
    fs.weight ≤ weight → Mirrors fs.store fs.decode weight 0 fs.Stands
  | .nil, _, _, _ => Mirrors.pure fun _ => ⟨trivial, rfl⟩
  | .cons _ layout rest, addressable, weight, heavy => by
      rw [Fields.addressable, Bool.and_eq_true] at addressable
      rw [Fields.weight] at heavy
      exact mirrors_cons (layout.mirrors addressable.1 (by omega))
        (rest.mirrors addressable.2 (by omega))

end

namespace Layout

/-- How much of an arena a payload takes, also one that is refused, does not depend on the arena. -/
theorem storePayload_grows {l : Layout} (addressable : l.addressable = true) (raw : Bytes) :
    ∃ n, ∀ a : Arena, a.Sound → a.Grows n (l.storePayload raw a).2 := by
  have mirrors := l.mirrors addressable (Nat.le_refl _)
  unfold storePayload
  cases checkSerializedSize raw.length with
  | error e => exact ⟨0, fun a sound => (Arena.Extends.refl sound).toGrows⟩
  | ok =>
      cases run : l.decode (Cursor.ofBytes raw) with
      | error e c =>
          obtain ⟨n, from_any⟩ := mirrors.error run
          refine ⟨n, fun a sound => ?_⟩
          obtain ⟨a', stored, ext⟩ := from_any a sound
          simp only [stored]
          exact ext.toGrows
      | ok y c =>
          obtain ⟨n, _, _, -, -, from_any⟩ := mirrors.ok run
          refine ⟨n, fun a sound => ?_⟩
          obtain ⟨x, a', stored, ext, -⟩ := from_any a sound
          simp only [stored]
          exact ext.toGrows

theorem storePayload_steps {l : Layout} (addressable : l.addressable = true) {a : Arena}
    (sound : a.Sound) (raw : Bytes) :
    Relation.ReflTransGen Arena.Step a (l.storePayload raw a).2 := by
  obtain ⟨n, grows⟩ := storePayload_grows addressable raw
  exact (grows a sound).steps

/-- Storing a payload and decoding it fail alike, or the stored value leads to the decoded one. -/
theorem storePayload_agrees {l : Layout} (addressable : l.addressable = true) {a : Arena}
    (sound : a.Sound) (room : a.used + l.weight * maxSerializedSize < 2 ^ 64) (raw : Bytes) :
    (∃ e, Decode.payload l.decode raw = .error e ∧ (l.storePayload raw a).1 = .error e) ∨
      ∃ y x c, Decode.payload l.decode raw = .ok y ∧ (l.storePayload raw a).1 = .ok x ∧
        l.decode (Cursor.ofBytes raw) = .ok y c ∧
        l.store ⟨Cursor.ofBytes raw, a⟩ = .ok x ⟨c, (l.storePayload raw a).2⟩ ∧
        l.resolve (l.storePayload raw a).2 x = .ok y := by
  have mirrors := l.mirrors addressable (Nat.le_refl _)
  by_cases large : maxSerializedSize < raw.length
  · left
    have refused : checkSerializedSize raw.length = .error (.dataTooLarge raw.length) :=
      if_pos large
    refine ⟨.dataTooLarge raw.length, ?_, ?_⟩
    · rw [Decode.payload, refused]
    · rw [storePayload, refused]
  · have sized : checkSerializedSize raw.length = .ok () := if_neg large
    simp only [Decode.payload, storePayload, sized]
    cases run : l.decode (Cursor.ofBytes raw) with
    | error e c =>
        left
        obtain ⟨n, from_any⟩ := mirrors.error run
        obtain ⟨a', stored, -⟩ := from_any a sound
        simp only [stored]
        exact ⟨e, rfl, rfl⟩
    | ok y c =>
        right
        obtain ⟨n, read, k, adv, paid, from_any⟩ := mirrors.ok run
        obtain ⟨x, a', stored, ext, stands⟩ := from_any a sound
        have short : read.length ≤ maxSerializedSize := by
          have whole : raw.length = read.length + c.rest.length := adv.rest_length
          omega
        have cost : n ≤ l.weight * maxSerializedSize := by
          rw [Nat.zero_add] at paid
          exact Nat.le_trans paid (Nat.mul_le_mul_left _ short)
        have small : a'.used < 2 ^ 64 := by
          rw [ext.used]
          omega
        simp only [stored]
        exact ⟨y, x, c, rfl, rfl, rfl, rfl, (stands small a' (.refl a' a.used)).2⟩

end Layout
end SchemaWire

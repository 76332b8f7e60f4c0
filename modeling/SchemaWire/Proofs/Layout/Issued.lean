import SchemaWire.Proofs.Layout.Rounds
import SchemaWire.Proofs.Layout.Stored

/-!
Handles and what they are issued for. Reading a value into an arena issues handles for texts,
fixed-width arrays and lists of records, also when it fails later. Each of them leads to what it was
issued for in every arena that keeps the bytes allocated meanwhile.
-/
namespace SchemaWire

open ArenaDecode (Mirrors)

inductive Content where
  | text (s : String)
  | packed (t : ScalarType) (xs : List t.Carrier)
  | records (item : Layout) (xs : List item.Stored)

structure Issued where
  handle : Handle
  content : Content

namespace Issued

/-- Resolving the handle gives what it was issued for. -/
def Resolves (a : Arena) : Issued → Prop
  | ⟨h, .text s⟩ => a.text h = .ok s
  | ⟨h, .packed t xs⟩ => ∃ v, a.view t h = .ok v ∧ v.toList = xs
  | ⟨h, .records item xs⟩ => ∃ raws, a.records item h = .ok raws ∧ raws.mapM item.ofRecord = .ok xs

/-- The handle is of the arena's generation, and resolves there if offsets are words. -/
structure Kept (a : Arena) (i : Issued) : Prop where
  fresh : i.handle.generation = a.generation
  resolves : a.used < 2 ^ 64 → i.Resolves a

variable {a b : Arena}

theorem kept_text (sound : a.Sound) (s : String) (agrees : (a.allocText s).2.Agrees a.used b) :
    Kept b ⟨(a.allocText s).1, .text s⟩ where
  fresh := (agrees.generation.trans (Arena.allocAs_spec sound _ _).1.generation).symm
  resolves small :=
    (Arena.allocAs_leads sound (Nat.le_refl _) agrees
      (Nat.lt_of_le_of_lt agrees.used small)).text rfl

theorem kept_view (sound : a.Sound) {t : ScalarType} {v : View t}
    (valid : View.ofBytes t v.bytes = .ok v) (agrees : (a.allocView v).2.Agrees a.used b) :
    Kept b ⟨(a.allocView v).1, .packed t v.toList⟩ where
  fresh := (agrees.generation.trans (Arena.allocAs_spec sound _ _).1.generation).symm
  resolves small :=
    have leads := Arena.allocAs_leads sound (Nat.div_le_self ..) agrees
      (Nat.lt_of_le_of_lt agrees.used small)
    ⟨v, leads.view rfl valid, rfl⟩

/-- Records behind a handle that read as values. -/
theorem resolves_records {item : Layout} {h : Handle} {xs : List item.Stored}
    (leads : h.Leads a (xs.flatMap item.recordBytes)) (sized : h.length = xs.length)
    (solid : 0 < item.recordSize) (fits : ∀ x ∈ xs, item.Fits x) :
    Resolves a ⟨h, .records item xs⟩ := by
  refine ⟨xs.map item.recordBytes, leads.records sized solid, mapM_of_forall₂ ?_⟩
  rw [List.forall₂_map_left_iff, List.forall₂_same]
  exact fun x member => Layout.ofRecord_recordBytes (fits x member)

end Issued

open ArenaDecode (after Rounds)

/-- The beginning of a list: its length is read and room for its records reserved. -/
def Layout.openList (item : Layout) : ArenaDecode Handle := do
  let count ← ArenaDecode.read Decode.count
  ArenaDecode.read (Decode.expect count)
  ArenaDecode.allocate fun a =>
    (⟨a.used, count, a.generation⟩, (a.alloc (count * item.recordSize)).2)

theorem Layout.store_list (item : Layout) : Layout.store (.list item) = do
    let h ← item.openList
    ArenaDecode.records item.store item.recordBytes item.recordSize h.length h.offset
    return h := by
  rw [Layout.store, Layout.openList]
  simp only [bind_assoc]
  rfl

theorem Layout.openList_extends {item : Layout} {s s' : ArenaCursor} {h : Handle}
    (run : item.openList s = .ok h s') (sound : s.arena.Sound) :
    h.offset = s.arena.used ∧ h.generation = s.arena.generation ∧
      ∃ n, s.arena.Extends n s'.arena ∧ h.length * item.recordSize ≤ n := by
  obtain ⟨count, s₁, counted, run⟩ := bind_eq_ok.mp run
  obtain ⟨_, s₂, expected, reserved⟩ := bind_eq_ok.mp run
  have unmoved : s₂.arena = s.arena :=
    (ArenaDecode.read_eq_ok expected).2.trans (ArenaDecode.read_eq_ok counted).2
  cases reserved
  rw [unmoved]
  exact ⟨rfl, rfl, _, Arena.alloc_extends sound _, Arena.le_roundUp _⟩

mutual

/-- The handles issued while a value is read into an arena. -/
inductive Layout.Issues : Layout → ArenaCursor → Issued → Prop where
  | text {s : ArenaCursor} {c : Cursor} {t : String} (read : Decode.text s.cursor = .ok t c) :
      Layout.Issues .text s ⟨(s.arena.allocText t).1, .text t⟩
  | packed {t : ScalarType} {s : ArenaCursor} {c : Cursor} {v : View t}
      (read : Decode.view t s.cursor = .ok v c) :
      Layout.Issues (.packed t) s ⟨(s.arena.allocView v).1, .packed t v.toList⟩
  | records {item : Layout} {s s₁ s' : ArenaCursor} {h : Handle} {xs : List item.Stored}
      (opened : item.openList s = .ok h s₁)
      (rounds : Rounds item.store item.recordBytes item.recordSize h.offset s₁ xs s')
      (complete : xs.length = h.length) : Layout.Issues (.list item) s ⟨h, .records item xs⟩
  | element {item : Layout} {s s₁ s' : ArenaCursor} {h : Handle} {xs : List item.Stored}
      {i : Issued} (opened : item.openList s = .ok h s₁)
      (rounds : Rounds item.store item.recordBytes item.recordSize h.offset s₁ xs s')
      (next : xs.length < h.length) (inner : Layout.Issues item s' i) :
      Layout.Issues (.list item) s i
  | option {item : Layout} {s : ArenaCursor} {c : Cursor} {i : Issued}
      (present : Decode.scalar .bool s.cursor = .ok true c)
      (inner : Layout.Issues item ⟨c, s.arena⟩ i) : Layout.Issues (.option item) s i
  | record {name : String} {fields : Fields} {s : ArenaCursor} {i : Issued}
      (inner : Fields.Issues fields s i) : Layout.Issues (.record name fields) s i

inductive Fields.Issues : Fields → ArenaCursor → Issued → Prop where
  | head {name : String} {layout : Layout} {rest : Fields} {s : ArenaCursor} {i : Issued}
      (inner : Layout.Issues layout s i) : Fields.Issues (.cons name layout rest) s i
  | tail {name : String} {layout : Layout} {rest : Fields} {s s' : ArenaCursor} {i : Issued}
      {x : layout.Stored} (first : layout.store s = .ok x s')
      (inner : Fields.Issues rest s' i) : Fields.Issues (.cons name layout rest) s i

end

/-- The handles that a decoder issues are kept by all arenas that keep what it allocated. -/
def ArenaDecode.Keeps {α : Type} (e : ArenaDecode α) (issues : ArenaCursor → Issued → Prop) :
    Prop :=
  ∀ ⦃s : ArenaCursor⦄ ⦃i : Issued⦄, issues s i → s.arena.Sound →
    ∀ ⦃b : Arena⦄, (e.after s).arena.Agrees s.arena.used b → i.Kept b

open ArenaDecode (Keeps after_of_ok after_of_error after_bind after_map read_of_ok)

theorem keeps_text : Keeps (Layout.store .text) (Layout.Issues .text) := by
  rintro ⟨c, a⟩ i issued sound b agrees
  cases issued with
  | text read =>
      rw [Layout.store, after_bind (read_of_ok read a)] at agrees
      exact Issued.kept_text sound _ agrees

theorem keeps_packed (t : ScalarType) :
    Keeps (Layout.store (.packed t)) (Layout.Issues (.packed t)) := by
  rintro ⟨c, a⟩ i issued sound b agrees
  cases issued with
  | packed read =>
      obtain ⟨_, _, -, -, -, -, valid⟩ := Decode.accepts_view t read
      rw [Layout.store, after_bind (read_of_ok read a)] at agrees
      exact Issued.kept_view sound valid agrees

theorem keeps_option {item : Layout} (h : Keeps item.store item.Issues) :
    Keeps (Layout.store (.option item)) (Layout.Issues (.option item)) := by
  rintro ⟨c, a⟩ i issued sound b agrees
  cases issued with
  | option present inner =>
      rw [Layout.store, after_bind (read_of_ok present a)] at agrees
      exact h inner sound ((after_map item.store some _) ▸ agrees)

theorem keeps_cons {name : String} {layout : Layout} {rest : Fields}
    (head : Keeps layout.store layout.Issues) (tail : Keeps rest.store rest.Issues)
    (extending : layout.store.Extending) (extending' : rest.store.Extending) :
    Keeps (Fields.store (.cons name layout rest)) (Fields.Issues (.cons name layout rest)) := by
  intro s i issued sound b agrees
  rw [Fields.store] at agrees
  cases issued with
  | head inner =>
      refine head inner sound ?_
      cases run : layout.store s with
      | error f s' =>
          rw [after_of_error (bind_of_error run)] at agrees
          rwa [after_of_error run]
      | ok x s' =>
          obtain ⟨n, ext⟩ := extending _ sound
          rw [after_of_ok run] at ext
          obtain ⟨m, ext'⟩ := extending' _ ext.sound
          rw [after_bind run, after_map] at agrees
          rw [after_of_ok run]
          exact ext'.agrees agrees
  | @tail _ _ _ _ s' _ x first inner =>
      obtain ⟨n, ext⟩ := extending _ sound
      rw [after_of_ok first] at ext
      have grown := ext.used
      rw [after_bind first, after_map] at agrees
      exact tail inner ext.sound (agrees.mono (by omega))

section List

theorem Layout.after_store_list {item : Layout} {s s₁ : ArenaCursor} {h : Handle}
    (opened : item.openList s = .ok h s₁) : (Layout.store (.list item)).after s =
      (ArenaDecode.records item.store item.recordBytes item.recordSize h.length h.offset).after
        s₁ := by
  have whole := congrArg (fun e : ArenaDecode Handle => e.after s) (Layout.store_list item)
  refine whole.trans ?_
  rw [after_bind opened, after_map _ fun _ => h]

variable {item : Layout} {weight : Nat}
  (mirrors : Mirrors item.store item.decode weight 0 item.Stands)
include mirrors

theorem kept_records (solid : 0 < item.recordSize) {s s₁ s' : ArenaCursor} {h : Handle}
    {xs : List item.Stored} (sound : s.arena.Sound) (opened : item.openList s = .ok h s₁)
    (rounds : Rounds item.store item.recordBytes item.recordSize h.offset s₁ xs s')
    (complete : xs.length = h.length) {b : Arena}
    (agrees : ((Layout.store (.list item)).after s).arena.Agrees s.arena.used b) :
    Issued.Kept b ⟨h, .records item xs⟩ := by
  have sized := item.recordBytes_length
  obtain ⟨offset, generation, n, room, enough⟩ := Layout.openList_extends opened sound
  have reserved := room.used
  have loop := rounds.records_eq 0
  rw [Nat.add_zero, complete] at loop
  rw [Layout.after_store_list opened, after_of_ok loop] at agrees
  have inside : h.offset + xs.length * item.recordSize ≤ s₁.arena.used := by
    rw [complete]
    omega
  obtain ⟨m, fills⟩ := rounds.fills mirrors.extending sized room.sound inside
  have fresh : h.generation = b.generation := by
    rw [agrees.generation, fills.generation, room.generation, generation]
  refine ⟨fresh, ?_⟩
  intro small
  have used := fills.used
  have later := agrees.used
  have length := length_flatMap_of_sized sized xs
  have counted : h.length ≤ h.length * item.recordSize := Nat.le_mul_of_pos_right _ solid
  have within : h.offset + (xs.flatMap item.recordBytes).length ≤ s'.arena.used := by omega
  have fits : ∀ x ∈ xs, item.Fits x := by
    refine rounds.forall_mem mirrors.extending sized room.sound inside (by omega) ?_
    intro t t' x sound read small
    obtain ⟨y, stands⟩ := mirrors.exists_stands sound read small
    exact stands.1
  refine Issued.resolves_records ⟨⟨?_, ?_⟩, fresh, ?_, ?_⟩ complete.symm solid fits
  · omega
  · omega
  · omega
  · exact agrees.has fills.has (by omega) within

/-- What an element issued is kept while the rest of the list is read. -/
theorem kept_element (keeps : Keeps item.store item.Issues) {s s₁ s' : ArenaCursor} {h : Handle}
    {xs : List item.Stored} {i : Issued} (sound : s.arena.Sound)
    (opened : item.openList s = .ok h s₁)
    (rounds : Rounds item.store item.recordBytes item.recordSize h.offset s₁ xs s')
    (next : xs.length < h.length) (inner : item.Issues s' i) {b : Arena}
    (agrees : ((Layout.store (.list item)).after s).arena.Agrees s.arena.used b) : i.Kept b := by
  have sized := item.recordBytes_length
  obtain ⟨offset, generation, n, room, enough⟩ := Layout.openList_extends opened sound
  have reserved := room.used
  obtain ⟨k, count⟩ : ∃ k, h.length = xs.length + (k + 1) := ⟨h.length - xs.length - 1, by omega⟩
  rw [count, Nat.add_mul, Nat.succ_mul] at enough
  obtain ⟨m, fills⟩ := rounds.fills mirrors.extending sized room.sound (by omega)
  have used := fills.used
  rw [Layout.after_store_list opened, count, rounds.after_eq] at agrees
  -- The rounds that are left write no record above the block.
  have kept : (item.store.after s').arena.Agrees s₁.arena.used b := by
    refine Arena.Agrees.trans ?_ (agrees.mono (by omega))
    refine ArenaDecode.item_agrees mirrors.extending sized fills.sound (by omega) (by omega) ?_
    intro t sound used
    exact ArenaDecode.records_agrees mirrors.extending sized sound (by omega) used
  exact keeps inner fills.sound (kept.mono (by omega))

theorem keeps_list (solid : 0 < item.recordSize) (keeps : Keeps item.store item.Issues) :
    Keeps (Layout.store (.list item)) (Layout.Issues (.list item)) := by
  intro s i issued sound b agrees
  cases issued with
  | records opened rounds complete =>
      exact kept_records mirrors solid sound opened rounds complete agrees
  | element opened rounds next inner =>
      exact kept_element mirrors keeps sound opened rounds next inner agrees

end List

mutual

theorem Layout.keeps : (l : Layout) → l.addressable = true → Keeps l.store l.Issues
  | .scalar _, _ => fun _ _ issued => nomatch issued
  | .text, _ => keeps_text
  | .packed t, _ => keeps_packed t
  | .list item, addressable => by
      rw [Layout.addressable, Bool.and_eq_true, decide_eq_true_eq] at addressable
      exact keeps_list (item.mirrors addressable.2 (Nat.le_refl _)) addressable.1
        (item.keeps addressable.2)
  | .option item, addressable => keeps_option (item.keeps addressable)
  | .record _ fields, addressable => by
      intro s i issued sound b agrees
      cases issued with
      | record inner => exact fields.keeps addressable inner sound agrees

theorem Fields.keeps : (fs : Fields) → fs.addressable = true → Keeps fs.store fs.Issues
  | .nil, _ => fun _ _ issued => nomatch issued
  | .cons _ layout rest, addressable => by
      rw [Fields.addressable, Bool.and_eq_true] at addressable
      exact keeps_cons (layout.keeps addressable.1) (rest.keeps addressable.2)
        (layout.mirrors addressable.1 (Nat.le_refl _)).extending
        (rest.mirrors addressable.2 (Nat.le_refl _)).extending

end

mutual

/-- The handles of a value are among those, and so are the handles in the records they lead to. -/
def Layout.Covered (among : Issued → Prop) : (l : Layout) → l.Stored → Prop
  | .scalar _, _ => True
  | .text, (h : Handle) => ∃ s, among ⟨h, .text s⟩
  | .packed t, (h : Handle) => ∃ xs, among ⟨h, .packed t xs⟩
  | .list item, (h : Handle) =>
    ∃ xs, among ⟨h, .records item xs⟩ ∧ ∀ x ∈ xs, Layout.Covered among item x
  | .option item, x =>
    match x with
    | some y => Layout.Covered among item y
    | none => True
  | .record _ fields, x => Fields.Covered among fields x

def Fields.Covered (among : Issued → Prop) : (fs : Fields) → fs.Stored → Prop
  | .nil, _ => True
  | .cons _ layout rest, (x, xs) => Layout.Covered among layout x ∧ Fields.Covered among rest xs

end

mutual

theorem Layout.Covered.mono {P Q : Issued → Prop} (imp : ∀ i, P i → Q i) : (l : Layout) →
    {x : l.Stored} → l.Covered P x → l.Covered Q x
  | .scalar _, _, _ => trivial
  | .text, _, ⟨s, issued⟩ => ⟨s, imp _ issued⟩
  | .packed _, _, ⟨xs, issued⟩ => ⟨xs, imp _ issued⟩
  | .list item, _, ⟨xs, issued, each⟩ =>
      ⟨xs, imp _ issued, fun x member => Layout.Covered.mono imp item (each x member)⟩
  | .option item, some _, covered => Layout.Covered.mono imp item covered
  | .option _, none, _ => trivial
  | .record _ fields, _, covered => Fields.Covered.mono imp fields covered

theorem Fields.Covered.mono {P Q : Issued → Prop} (imp : ∀ i, P i → Q i) : (fs : Fields) →
    {x : fs.Stored} → fs.Covered P x → fs.Covered Q x
  | .nil, _, _ => trivial
  | .cons _ layout rest, (_, _), ⟨head, tail⟩ =>
      ⟨Layout.Covered.mono imp layout head, Fields.Covered.mono imp rest tail⟩

end

theorem covered_list {item : Layout}
    (each : ∀ {s s' : ArenaCursor} {x : item.Stored}, item.store s = .ok x s' →
      item.Covered (item.Issues s) x)
    {s s' : ArenaCursor} {h : Handle} (run : Layout.store (.list item) s = .ok h s') :
    Layout.Covered (Layout.Issues (.list item) s) (.list item) h := by
  rw [Layout.store_list] at run
  obtain ⟨h', s₁, opened, run⟩ := bind_eq_ok.mp run
  obtain ⟨_, s₂, loop, done⟩ := bind_eq_ok.mp run
  cases done
  obtain ⟨xs, counted, rounds⟩ := ArenaDecode.exists_rounds loop
  refine ⟨xs, .records opened rounds counted, ?_⟩
  intro x member
  obtain ⟨before, t, t', earlier, fewer, read⟩ := rounds.read_of_mem member
  exact Layout.Covered.mono (fun i inner => .element opened earlier (counted ▸ fewer) inner) item
    (each read)

mutual

/-- Every handle of a value read into an arena was issued meanwhile. -/
theorem Layout.covered : (l : Layout) → {s s' : ArenaCursor} → {x : l.Stored} →
    l.store s = .ok x s' → l.Covered (l.Issues s) x
  | .scalar _, _, _, _, _ => trivial
  | .text, s, _, _, run => by
      obtain ⟨t, s₁, read, copied⟩ := bind_eq_ok.mp run
      obtain ⟨decoded, unmoved⟩ := ArenaDecode.read_eq_ok read
      cases copied
      exact ⟨t, unmoved ▸ .text decoded⟩
  | .packed t, s, _, _, run => by
      obtain ⟨v, s₁, read, copied⟩ := bind_eq_ok.mp run
      obtain ⟨decoded, unmoved⟩ := ArenaDecode.read_eq_ok read
      cases copied
      exact ⟨v.toList, unmoved ▸ .packed decoded⟩
  | .list item, _, _, _, run => covered_list (fun read => item.covered read) run
  | .option item, s, _, x, run => by
      obtain ⟨present, s₁, read, rest⟩ := bind_eq_ok.mp run
      obtain ⟨decoded, unmoved⟩ := ArenaDecode.read_eq_ok read
      cases present with
      | false =>
          cases rest
          trivial
      | true =>
          obtain ⟨y, s₂, stored, last⟩ := bind_eq_ok.mp rest
          cases last
          refine Layout.Covered.mono (fun i inner => ?_) item (item.covered stored)
          obtain ⟨c, a⟩ := s₁
          cases unmoved
          exact .option decoded inner
  | .record _ fields, _, _, _, run =>
      Fields.Covered.mono (fun _ inner => .record inner) fields (fields.covered run)

theorem Fields.covered : (fs : Fields) → {s s' : ArenaCursor} → {x : fs.Stored} →
    fs.store s = .ok x s' → fs.Covered (fs.Issues s) x
  | .nil, _, _, _, _ => trivial
  | .cons _ layout rest, s, _, _, run => by
      obtain ⟨x, s₁, first, run⟩ := bind_eq_ok.mp run
      obtain ⟨xs, s₂, second, last⟩ := bind_eq_ok.mp run
      cases last
      exact ⟨Layout.Covered.mono (fun _ inner => .head inner) layout (layout.covered first),
        Fields.Covered.mono (fun _ inner => .tail first inner) rest (rest.covered second)⟩

end

end SchemaWire

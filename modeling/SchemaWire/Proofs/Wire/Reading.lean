import SchemaWire.Proofs.Binds
import SchemaWire.Proofs.Wire.Scalar
import SchemaWire.Wire.Cursor

/-!
What decoders read. `Reads d raw k a` says that `d` reads `a` off the bytes `raw` whatever follows
them, and announces `k` array elements; `Accepts d P` says that all `d` ever reads satisfies `P`.
Each decoder has one law of either kind.
-/
namespace SchemaWire

/-- The cursor moved over the bytes `raw`, past `k` announced array elements. -/
structure Cursor.Advance (raw : Bytes) (k : Nat) (c c' : Cursor) : Prop where
  rest : c.rest = raw ++ c'.rest
  index : c'.index = c.index + raw.length
  elements : c'.elements = c.elements + k

namespace Cursor.Advance

theorem refl (c : Cursor) : Advance [] 0 c c := ⟨rfl, rfl, rfl⟩

theorem trans {raw raw' : Bytes} {k k' : Nat} {c c' c'' : Cursor} (h : Advance raw k c c')
    (h' : Advance raw' k' c' c'') : Advance (raw ++ raw') (k + k') c c'' := by
  refine ⟨?_, ?_, ?_⟩
  · rw [h.rest, h'.rest, List.append_assoc]
  · rw [h'.index, h.index, List.length_append, Nat.add_assoc]
  · rw [h'.elements, h.elements, Nat.add_assoc]

theorem split {raw raw' : Bytes} {k k' : Nat} {c c'' : Cursor}
    (h : Advance (raw ++ raw') (k + k') c c'') :
    ∃ c', Advance raw k c c' ∧ Advance raw' k' c' c'' := by
  refine ⟨⟨raw' ++ c''.rest, c.index + raw.length, c.elements + k⟩, ⟨?_, rfl, rfl⟩, ⟨rfl, ?_, ?_⟩⟩
  · rw [h.rest, List.append_assoc]
  · rw [h.index, List.length_append, Nat.add_assoc]
  · rw [h.elements, Nat.add_assoc]

theorem rest_length {raw : Bytes} {k : Nat} {c c' : Cursor} (h : Advance raw k c c') :
    c.rest.length = raw.length + c'.rest.length := by
  rw [h.rest, List.length_append]

/-- The bytes moved over and the way there determine the place reached. -/
theorem unique {raw : Bytes} {k : Nat} {c c₁ c₂ : Cursor} (h₁ : Advance raw k c c₁)
    (h₂ : Advance raw k c c₂) : c₁ = c₂ := by
  have rest : c₁.rest = c₂.rest := List.append_cancel_left (h₁.rest.symm.trans h₂.rest)
  have index : c₁.index = c₂.index := h₁.index.trans h₂.index.symm
  have elements : c₁.elements = c₂.elements := h₁.elements.trans h₂.elements.symm
  cases c₁; cases c₂
  cases rest; cases index; cases elements
  rfl

end Cursor.Advance

namespace Decode

variable {α β : Type}

/-- The decoder reads `a` off the bytes `raw` and announces `k` array elements, provided these do
not exceed the limit of one message. -/
def Reads (d : Decode α) (raw : Bytes) (k : Nat) (a : α) : Prop :=
  ∀ ⦃c c' : Cursor⦄, Cursor.Advance raw k c c' → c'.elements ≤ maxTotalElements → d c = .ok a c'

/-- Whatever the decoder reads satisfies `P`, as do the bytes it reads it off and the number of
array elements it announces. -/
def Accepts (d : Decode α) (P : Bytes → Nat → α → Prop) : Prop :=
  ∀ ⦃c c' : Cursor⦄ ⦃a : α⦄, d c = .ok a c' → ∃ raw k, Cursor.Advance raw k c c' ∧ P raw k a

/-- Values in a row: each of them and its bytes satisfy `P`, and nothing lies between them. -/
inductive Row (P : Bytes → Nat → α → Prop) : Bytes → Nat → List α → Prop where
  | nil : Row P [] 0 []
  | cons {raw raws : Bytes} {k ks : Nat} {a : α} {as : List α} (head : P raw k a)
      (tail : Row P raws ks as) : Row P (raw ++ raws) (k + ks) (a :: as)

theorem Row.imp {P Q : Bytes → Nat → α → Prop} {raw : Bytes} {k : Nat} {as : List α}
    (h : Row P raw k as) (imp : ∀ raw k a, a ∈ as → P raw k a → Q raw k a) : Row Q raw k as := by
  induction h with
  | nil => exact .nil
  | cons head tail ih =>
      refine .cons (imp _ _ _ (List.mem_cons_self ..) head) (ih ?_)
      intro raw k a member
      exact imp raw k a (List.mem_cons_of_mem _ member)

/-- Values that take a byte each are no more than the bytes they take. -/
theorem Row.length_le {P : Bytes → Nat → α → Prop} {raw : Bytes} {k : Nat} {as : List α}
    (h : Row P raw k as) (solid : ∀ raw k a, P raw k a → raw ≠ []) : as.length ≤ raw.length := by
  induction h with
  | nil => exact Nat.le_refl 0
  | cons head tail ih =>
      have first := List.length_pos_iff.mpr (solid _ _ _ head)
      rw [List.length_cons, List.length_append]
      omega

theorem Reads.pure (a : α) : Reads (pure a) [] 0 a := by
  intro c c' adv _
  exact congrArg _ (adv.unique (.refl c)).symm

theorem Reads.bind {d : Decode α} {f : α → Decode β} {raw raw' : Bytes} {k k' : Nat} {a : α} {b : β}
    (h : Reads d raw k a) (h' : Reads (f a) raw' k' b) :
    Reads (d >>= f) (raw ++ raw') (k + k') b := by
  intro c c'' adv within
  obtain ⟨c', first, second⟩ := adv.split
  have early : c'.elements ≤ maxTotalElements := by
    have total := second.elements
    omega
  rw [bind_of_ok (h first early)]
  exact h' second within

theorem Reads.cast {d : Decode α} {raw raw' : Bytes} {k k' : Nat} {a a' : α} (h : Reads d raw k a)
    (sameBytes : raw = raw') (sameCount : k = k') (same : a = a') : Reads d raw' k' a' := by
  subst sameBytes sameCount same
  exact h

theorem Reads.map {d : Decode α} {raw : Bytes} {k : Nat} {a : α} (h : Reads d raw k a)
    (f : α → β) : Reads (do return f (← d)) raw k (f a) :=
  (h.bind (Reads.pure (f a))).cast (List.append_nil raw) rfl rfl

/-- At the start of an input. -/
theorem Reads.ofBytes {d : Decode α} {raw : Bytes} {k : Nat} {a : α} (h : Reads d raw k a)
    (few : k ≤ maxTotalElements) (tail : Bytes) :
    d (.ofBytes (raw ++ tail)) = .ok a ⟨tail, raw.length, k⟩ :=
  h ⟨rfl, (Nat.zero_add _).symm, (Nat.zero_add _).symm⟩ few

theorem Accepts.imp {d : Decode α} {P Q : Bytes → Nat → α → Prop} (h : Accepts d P)
    (imp : ∀ raw k a, P raw k a → Q raw k a) : Accepts d Q := by
  intro c c' a run
  obtain ⟨raw, k, adv, holds⟩ := h run
  exact ⟨raw, k, adv, imp raw k a holds⟩

theorem Accepts.pure {a : α} {P : Bytes → Nat → α → Prop} (h : P [] 0 a) :
    Accepts (pure a) P := by
  intro c c' b run
  cases run
  exact ⟨[], 0, .refl c, h⟩

theorem Accepts.bind {d : Decode α} {f : α → Decode β} {P : Bytes → Nat → α → Prop}
    {Q : α → Bytes → Nat → β → Prop} {R : Bytes → Nat → β → Prop} (h : Accepts d P)
    (h' : ∀ a, Accepts (f a) (Q a))
    (joint : ∀ raw k a raw' k' b, P raw k a → Q a raw' k' b → R (raw ++ raw') (k + k') b) :
    Accepts (d >>= f) R := by
  intro c c'' b run
  obtain ⟨a, c', first, second⟩ := bind_eq_ok.mp run
  obtain ⟨raw, k, adv, holds⟩ := h first
  obtain ⟨raw', k', adv', holds'⟩ := h' a second
  exact ⟨_, _, adv.trans adv', joint raw k a raw' k' b holds holds'⟩

theorem Accepts.map {d : Decode α} {P : Bytes → Nat → α → Prop} {Q : Bytes → Nat → β → Prop}
    (h : Accepts d P) (f : α → β) (imp : ∀ raw k a, P raw k a → Q raw k (f a)) :
    Accepts (do return f (← d)) Q := by
  refine h.bind (Q := fun a raw k b => raw = [] ∧ k = 0 ∧ b = f a)
    (fun a => .pure ⟨rfl, rfl, rfl⟩) ?_
  rintro raw k a _ _ _ holds ⟨rfl, rfl, rfl⟩
  simpa only [List.append_nil, Nat.add_zero] using imp raw k a holds

theorem expect_of_le {n : Nat} {c : Cursor} (h : n ≤ c.rest.length) : expect n c = .ok () c :=
  if_pos ((hasAtLeast_iff n c.rest).mpr h)

theorem expect_of_lt {n : Nat} {c : Cursor} (h : c.rest.length < n) :
    expect n c = .error (.unexpectedEnd (position (c.index + n)) c.size) c :=
  if_neg (fun enough => Nat.not_le_of_lt h ((hasAtLeast_iff n c.rest).mp enough))

theorem accepts_expect (n : Nat) : Accepts (expect n) fun raw k _ => raw = [] ∧ k = 0 := by
  intro c c' _ run
  rcases Nat.lt_or_ge c.rest.length n with short | enough
  · rw [expect_of_lt short] at run
    cases run
  · rw [expect_of_le enough] at run
    cases run
    exact ⟨[], 0, .refl c, rfl, rfl⟩

theorem bytes_of_le {n : Nat} {c : Cursor} (h : n ≤ c.rest.length) :
    bytes n c = .ok (c.rest.take n) { c with rest := c.rest.drop n, index := c.index + n } :=
  bind_of_ok (expect_of_le h)

theorem bytes_of_lt {n : Nat} {c : Cursor} (h : c.rest.length < n) :
    bytes n c = .error (.unexpectedEnd (position (c.index + n)) c.size) c :=
  bind_of_error (expect_of_lt h)

theorem reads_bytes (raw : Bytes) : Reads (bytes raw.length) raw 0 raw := by
  intro c c' adv _
  have enough : raw.length ≤ c.rest.length := by rw [adv.rest_length]; exact Nat.le_add_right ..
  have there : Cursor.Advance raw 0 c
      { c with rest := c.rest.drop raw.length, index := c.index + raw.length } := by
    refine ⟨?_, rfl, rfl⟩
    rw [adv.rest, List.drop_left]
  rw [bytes_of_le enough, adv.unique there, adv.rest, List.take_left]

theorem accepts_bytes (n : Nat) :
    Accepts (bytes n) fun raw k a => raw.length = n ∧ k = 0 ∧ a = raw := by
  intro c c' a run
  rcases Nat.lt_or_ge c.rest.length n with short | enough
  · rw [bytes_of_lt short] at run
    cases run
  · rw [bytes_of_le enough] at run
    cases run
    have sized : (c.rest.take n).length = n := List.length_take_of_le enough
    refine ⟨c.rest.take n, 0, ⟨?_, ?_, rfl⟩, sized, rfl, rfl⟩
    · exact (List.take_append_drop n c.rest).symm
    · rw [sized]

theorem reads_ofExcept (a : α) : Reads (ofExcept (.ok a)) [] 0 a := Reads.pure a

theorem accepts_ofExcept (r : Except WireError α) :
    Accepts (ofExcept r) fun raw k a => raw = [] ∧ k = 0 ∧ r = .ok a := by
  cases r with
  | ok a => exact .pure ⟨rfl, rfl, rfl⟩
  | error e => intro c c' a run; cases run

theorem reads_scalar (t : ScalarType) (x : t.Carrier) : Reads (scalar t) (t.toBytes x) 0 x := by
  have raw := reads_bytes (t.toBytes x)
  rw [t.toBytes_length] at raw
  have checked :
      Reads (do ofExcept (t.check (t.toBytes x)); return t.ofBytes (t.toBytes x)) [] 0 x := by
    rw [t.check_toBytes, t.ofBytes_toBytes]
    exact (reads_ofExcept ()).bind (f := fun _ => Pure.pure x) (Reads.pure x)
  exact (raw.bind checked).cast (List.append_nil _) rfl rfl

theorem accepts_scalar (t : ScalarType) :
    Accepts (scalar t) fun raw k x => raw = t.toBytes x ∧ k = 0 := by
  refine (accepts_bytes t.size).bind
    (Q := fun a raw k x => raw = [] ∧ k = 0 ∧ t.check a = .ok () ∧ x = t.ofBytes a) ?_ ?_
  · intro a
    refine (accepts_ofExcept (t.check a)).bind
      (Q := fun _ raw k x => raw = [] ∧ k = 0 ∧ x = t.ofBytes a) (fun _ => .pure ⟨rfl, rfl, rfl⟩) ?_
    rintro _ _ _ _ _ _ ⟨rfl, rfl, checked⟩ ⟨rfl, rfl, rfl⟩
    exact ⟨rfl, rfl, checked, rfl⟩
  · rintro raw k _ _ _ _ ⟨sized, rfl, rfl⟩ ⟨rfl, rfl, checked, rfl⟩
    rw [List.append_nil, t.toBytes_ofBytes sized checked]
    exact ⟨rfl, rfl⟩

theorem reads_length {n : Nat} (small : n < 2 ^ 32) : Reads length (littleEndian 4 n) 0 n := by
  have exact : (BitVec.ofNat 32 n).toNat = n := by
    rw [BitVec.toNat_ofNat, Nat.mod_eq_of_lt small]
  have word : ScalarType.toBytes (.word .u32) (BitVec.ofNat 32 n) = littleEndian 4 n :=
    congrArg (littleEndian 4) exact
  exact ((reads_scalar (.word .u32) (BitVec.ofNat 32 n)).map BitVec.toNat).cast word rfl exact

theorem accepts_length :
    Accepts length fun raw k n => raw = littleEndian 4 n ∧ k = 0 ∧ n < 2 ^ 32 := by
  refine (accepts_scalar (.word .u32)).map _ ?_
  rintro _ _ x ⟨rfl, rfl⟩
  exact ⟨rfl, rfl, x.isLt⟩

theorem reads_text {s : String} (small : (bytesOfText s).length < 2 ^ 32) :
    Reads text (textBytes s) 0 s := by
  refine Reads.cast (k := 0 + 0) ((reads_length small).bind ?_) rfl rfl rfl
  refine Reads.cast (k := 0 + 0) ((reads_bytes (bytesOfText s)).bind ?_) (List.append_nil _) rfl rfl
  rw [textOfBytes?_bytesOfText]
  exact Reads.pure s

theorem accepts_text :
    Accepts text fun raw k s => raw = textBytes s ∧ k = 0 ∧ (bytesOfText s).length < 2 ^ 32 := by
  refine accepts_length.bind
    (Q := fun n raw k s => raw.length = n ∧ k = 0 ∧ bytesOfText s = raw) ?_ ?_
  · intro n
    refine (accepts_bytes n).bind
      (Q := fun a raw k s => raw = [] ∧ k = 0 ∧ textOfBytes? a = some s) ?_ ?_
    · intro a
      cases found : textOfBytes? a with
      | some s => exact .pure ⟨rfl, rfl, rfl⟩
      | none => intro c c' s run; cases run
    · rintro raw _ _ _ _ s ⟨sized, rfl, rfl⟩ ⟨rfl, rfl, found⟩
      rw [List.append_nil]
      exact ⟨sized, rfl, bytesOfText_of_textOfBytes? found⟩
  · rintro _ _ n _ _ s ⟨rfl, rfl, small⟩ ⟨rfl, rfl, rfl⟩
    exact ⟨rfl, rfl, small⟩

theorem reads_tally {n : Nat} (small : n ≤ maxArrayElements) : Reads (tally n) [] n n := by
  intro c c' adv within
  have there : Cursor.Advance [] n c { c with elements := c.elements + n } := ⟨rfl, rfl, rfl⟩
  have total : c.elements + n ≤ maxTotalElements := adv.elements ▸ within
  rw [tally, if_neg (Nat.not_lt_of_le small)]
  simp only [if_neg (Nat.not_lt_of_le total), adv.unique there]

theorem accepts_tally (n : Nat) :
    Accepts (tally n) fun raw k m => raw = [] ∧ k = n ∧ m = n ∧ n ≤ maxArrayElements := by
  intro c c' m run
  unfold tally at run
  split at run
  · cases run
  · rename_i small
    dsimp only at run
    split at run
    · cases run
    · cases run
      exact ⟨[], n, ⟨rfl, rfl, rfl⟩, rfl, rfl, rfl, Nat.le_of_not_lt small⟩

theorem reads_count {n : Nat} (small : n ≤ maxArrayElements) :
    Reads count (littleEndian 4 n) n n := by
  have word : n < 2 ^ 32 := Nat.lt_of_le_of_lt small (by decide)
  exact ((reads_length word).bind (reads_tally small)).cast (List.append_nil _) (Nat.zero_add n) rfl

theorem accepts_count :
    Accepts count fun raw k n => raw = littleEndian 4 n ∧ k = n ∧ n ≤ maxArrayElements := by
  refine accepts_length.bind accepts_tally ?_
  rintro _ _ n _ _ _ ⟨rfl, rfl, -⟩ ⟨rfl, rfl, rfl, small⟩
  exact ⟨List.append_nil _, Nat.zero_add _, small⟩

theorem reads_times {item : Decode α} {raw : Bytes} {k : Nat} {as : List α}
    (row : Row (Reads item) raw k as) (done : List α) :
    Reads (times item as.length done) raw k (done.reverse ++ as) := by
  induction row generalizing done with
  | nil =>
      rw [List.append_nil]
      exact Reads.pure done.reverse
  | @cons raw raws k ks a as head tail ih =>
      intro c c'' adv within
      obtain ⟨c', first, second⟩ := adv.split
      have early : c'.elements ≤ maxTotalElements := by
        have total := second.elements
        omega
      rw [List.length_cons, times, head first early]
      simpa only [List.reverse_cons, List.append_assoc, List.singleton_append] using
        ih (a :: done) second within

theorem accepts_times {item : Decode α} {P : Bytes → Nat → α → Prop} (h : Accepts item P)
    (n : Nat) (done : List α) :
    Accepts (times item n done) fun raw k as =>
      ∃ new, as = done.reverse ++ new ∧ new.length = n ∧ Row P raw k new := by
  induction n generalizing done with
  | zero =>
      intro c c' as run
      cases run
      exact ⟨[], 0, .refl c, [], (List.append_nil _).symm, rfl, .nil⟩
  | succ n ih =>
      intro c c'' as run
      unfold times at run
      split at run
      · rename_i a c' first
        obtain ⟨raw, k, adv, head⟩ := h first
        obtain ⟨raws, ks, adv', new, rfl, sized, tail⟩ := ih (a :: done) run
        refine ⟨_, _, adv.trans adv', a :: new, ?_, congrArg Nat.succ sized, .cons head tail⟩
        rw [List.reverse_cons, List.append_assoc, List.singleton_append]
      · cases run

/-- An array is read when its items are, none of which is empty. -/
theorem reads_list {item : Decode α} {raw : Bytes} {k : Nat} {as : List α}
    (small : as.length ≤ maxArrayElements)
    (row : Row (fun raw k a => Reads item raw k a ∧ raw ≠ []) raw k as) :
    Reads (list item) (littleEndian 4 as.length ++ raw) (as.length + k) as := by
  have solid := row.length_le fun _ _ _ h => h.2
  have items := reads_times (row.imp fun _ _ _ _ h => h.1) []
  refine (reads_count small).bind ?_
  intro c c' adv within
  have enough : as.length ≤ c.rest.length := by
    rw [adv.rest_length]
    omega
  rw [bind_of_ok (expect_of_le enough)]
  exact items adv within

theorem accepts_list {item : Decode α} {P : Bytes → Nat → α → Prop} (h : Accepts item P) :
    Accepts (list item) fun raw k as => as.length ≤ maxArrayElements ∧
      ∃ body ks, raw = littleEndian 4 as.length ++ body ∧ k = as.length + ks ∧
        Row P body ks as := by
  refine accepts_count.bind (Q := fun n raw k as => as.length = n ∧ Row P raw k as) ?_ ?_
  · intro n
    refine (accepts_expect n).bind (fun _ => accepts_times h n []) ?_
    rintro _ _ _ raw k _ ⟨rfl, rfl⟩ ⟨as, rfl, sized, row⟩
    rw [List.nil_append, Nat.zero_add]
    exact ⟨sized, row⟩
  · rintro _ _ _ body ks as ⟨rfl, rfl, small⟩ ⟨rfl, row⟩
    exact ⟨small, body, ks, rfl, rfl, row⟩

theorem reads_option_none (item : Decode α) :
    Reads (option item) (ScalarType.bool.toBytes false) 0 none :=
  ((reads_scalar .bool false).bind (Reads.pure none)).cast (List.append_nil _) rfl rfl

theorem reads_option_some {item : Decode α} {raw : Bytes} {k : Nat} {a : α}
    (h : Reads item raw k a) :
    Reads (option item) (ScalarType.bool.toBytes true ++ raw) k (some a) :=
  ((reads_scalar .bool true).bind (h.map some)).cast rfl (Nat.zero_add k) rfl

theorem accepts_option {item : Decode α} {P : Bytes → Nat → α → Prop} (h : Accepts item P) :
    Accepts (option item) fun raw k o =>
      (o = none ∧ raw = ScalarType.bool.toBytes false ∧ k = 0) ∨
        ∃ a body, o = some a ∧ raw = ScalarType.bool.toBytes true ++ body ∧ P body k a := by
  refine (accepts_scalar .bool).bind
    (Q := fun (present : Bool) raw k o => (present = false ∧ o = none ∧ raw = [] ∧ k = 0) ∨
      ∃ a, present = true ∧ o = some a ∧ P raw k a) ?_ ?_
  · intro present
    cases present with
    | false => exact .pure (.inl ⟨rfl, rfl, rfl, rfl⟩)
    | true => exact h.map some fun raw k a holds => .inr ⟨a, rfl, rfl, holds⟩
  · rintro _ _ _ body k _ ⟨rfl, rfl⟩ (⟨rfl, rfl, rfl, rfl⟩ | ⟨a, rfl, rfl, holds⟩)
    · exact .inl ⟨rfl, List.append_nil _, rfl⟩
    · exact .inr ⟨a, body, rfl, rfl, (Nat.zero_add k).symm ▸ holds⟩

section Payload

variable {item : Decode α} {raw : Bytes} {a : α} {c : Cursor} {e : WireError}

theorem payload_of_ok (small : raw.length ≤ maxSerializedSize)
    (run : item (.ofBytes raw) = .ok a c) : payload item raw = .ok a := by
  have sized : checkSerializedSize raw.length = .ok () := if_neg (Nat.not_lt_of_le small)
  simp only [payload, sized, run]

theorem payload_of_error (small : raw.length ≤ maxSerializedSize)
    (failed : item (.ofBytes raw) = .error e c) : payload item raw = .error e := by
  have sized : checkSerializedSize raw.length = .ok () := if_neg (Nat.not_lt_of_le small)
  simp only [payload, sized, failed]

theorem length_le_of_payload (h : payload item raw = .ok a) :
    raw.length ≤ maxSerializedSize := by
  apply Nat.le_of_not_lt
  intro large
  have refused : checkSerializedSize raw.length = .error (.dataTooLarge raw.length) := if_pos large
  simp only [payload, refused] at h
  cases h

theorem run_of_payload (h : payload item raw = .ok a) : ∃ c, item (.ofBytes raw) = .ok a c := by
  have sized : checkSerializedSize raw.length = .ok () :=
    if_neg (Nat.not_lt_of_le (length_le_of_payload h))
  simp only [payload, sized] at h
  split at h
  · rename_i c run
    cases h
    exact ⟨c, run⟩
  · cases h

end Payload

end Decode
end SchemaWire

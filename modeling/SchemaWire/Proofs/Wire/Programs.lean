import SchemaWire.Proofs.Wire.Delimited
import SchemaWire.Proofs.Wire.View

/-!
Programs of reads. A guarded reader keeps the whole input and an index into it, and faults where a
difference would be negative, a slice would reach past its bytes, or a sum or a product that makes a
position would make none. Whatever is read, in whatever order and after whatever failures, it never
faults, it does what the decoders do, and its index moves forward only and never past the end of the
input. The total of announced elements is no position and is not guarded: `tally` adds to a plain
number, so nothing is said about a total that passes the last word.
-/
namespace SchemaWire

/-- One read of a program. What an array or an option holds may be several reads in a row. -/
inductive Read where
  | scalar (t : ScalarType)
  | text
  | bytes (n : Nat)
  | count
  | view (t : ScalarType)
  | packed (t : ScalarType)
  | list (item : Read)
  | option (item : Read)
  | pair (first second : Read)

namespace Read

@[reducible] def Result : Read → Type
  | .scalar t => t.Carrier
  | .text => String
  | .bytes _ => Bytes
  | .count => Nat
  | .view t => View t
  | .packed t => List t.Carrier
  | .list item => List item.Result
  | .option item => Option item.Result
  | .pair first second => first.Result × second.Result

def decode : (r : Read) → Decode r.Result
  | .scalar t => Decode.scalar t
  | .text => Decode.text
  | .bytes n => Decode.bytes n
  | .count => Decode.count
  | .view t => Decode.view t
  | .packed t => Decode.packed t
  | .list item => Decode.list item.decode
  | .option item => Decode.option item.decode
  | .pair first second => do
    let a ← first.decode
    let b ← second.decode
    return (a, b)

end Read

/-- A place in an input, and how many array elements were announced before it. -/
structure Place where
  index : Nat
  elements : Nat

def Place.cursor (data : Bytes) (p : Place) : Cursor := ⟨data.drop p.index, p.index, p.elements⟩

inductive Halt where
  /-- A difference, a slice or a position does not exist. -/
  | fault
  | refused (error : WireError)

/-- A reader that goes by places. -/
abbrev Guarded := EStateM Halt Place

namespace Guarded

variable {α β : Type}

def difference (m n : Nat) : Guarded Nat := if n ≤ m then pure (m - n) else throw .fault

/-- A number that has to be a position. -/
def word (n : Nat) : Guarded Nat := if n ≤ maxPosition then pure n else throw .fault

def slice (raw : Bytes) (start stop : Nat) : Guarded Bytes :=
  if start ≤ stop ∧ stop ≤ raw.length then pure ((raw.drop start).take (stop - start))
  else throw .fault

def ofExcept : Except WireError α → Guarded α
  | .ok a => pure a
  | .error e => throw (.refused e)

def checkElements (t : ScalarType) : (count : Nat) → Bytes → Guarded Unit
  | 0, _ => pure ()
  | count + 1, raw => do
    ofExcept (t.check (← slice raw 0 t.size))
    checkElements t count (raw.drop t.size)

def values (t : ScalarType) : (count : Nat) → Bytes → Guarded (List t.Carrier)
  | 0, _ => pure []
  | count + 1, raw => do
    let x := t.ofBytes (← slice raw 0 t.size)
    return x :: (← values t count (raw.drop t.size))

def viewOf (t : ScalarType) (raw : Bytes) : Guarded (View t) :=
  let extra := raw.length % t.size
  if extra = 0 then do
    checkElements t (raw.length / t.size) raw
    return ⟨raw⟩
  else do
    let needed ← word (raw.length + (← difference t.size extra))
    throw (.refused (.unexpectedEnd needed raw.length))

def times (item : Guarded α) : (count : Nat) → (done : List α) → Guarded (List α)
  | 0, done => pure done.reverse
  | count + 1, done => do times item count ((← item) :: done)

def tally (count : Nat) : Guarded Nat := fun p =>
  if maxArrayElements < count then .error (.refused (.arrayTooLarge count)) p
  else
    let total := p.elements + count
    if maxTotalElements < total then
      .error (.refused (.tooManyElements total)) { p with elements := total }
    else .ok count { p with elements := total }

section Reading

variable (data : Bytes)

def remaining : Guarded Nat := do difference data.length (← get).index

def expect (n : Nat) : Guarded Unit := do
  let left ← remaining data
  if n ≤ left then return ()
  else throw (.refused (.unexpectedEnd (position ((← get).index + n)) data.length))

def bytes (n : Nat) : Guarded Bytes := do
  expect data n
  let p ← get
  let stop ← word (p.index + n)
  let raw ← slice data p.index stop
  set { p with index := stop }
  return raw

def scalar (t : ScalarType) : Guarded t.Carrier := do
  let raw ← slice (← bytes data t.size) 0 t.size
  ofExcept (t.check raw)
  return t.ofBytes raw

def length : Guarded Nat := do
  let n ← scalar data (.word .u32)
  return n.toNat

def text : Guarded String := do
  let raw ← bytes data (← length data)
  match textOfBytes? raw with
  | some s => return s
  | none => throw (.refused .invalidUtf8)

def count : Guarded Nat := do tally (← length data)

def view (t : ScalarType) : Guarded (View t) := do
  let size ← word ((← count data) * t.size)
  viewOf t (← bytes data size)

def packed (t : ScalarType) : Guarded (List t.Carrier) := do
  let v ← view data t
  values t v.length v.bytes

def list (item : Guarded α) : Guarded (List α) := do
  let n ← count data
  expect data n
  times item n []

def option (item : Guarded α) : Guarded (Option α) := do
  let present ← scalar data .bool
  if present then return some (← item) else return none

end Reading

end Guarded

def Read.guarded (data : Bytes) : (r : Read) → Guarded r.Result
  | .scalar t => Guarded.scalar data t
  | .text => Guarded.text data
  | .bytes n => Guarded.bytes data n
  | .count => Guarded.count data
  | .view t => Guarded.view data t
  | .packed t => Guarded.packed data t
  | .list item => Guarded.list data (item.guarded data)
  | .option item => Guarded.option data (item.guarded data)
  | .pair first second => do
    let a ← first.guarded data
    let b ← second.guarded data
    return (a, b)

theorem ScalarType.size_le (t : ScalarType) : t.size ≤ 8 := by
  cases t with
  | word w => cases w <;> decide
  | bool => decide

/-- An end of the input is reported with the length of the input and with a need beyond it. -/
def WireError.Honest (size : Nat) (e : WireError) : Prop :=
  ∀ needed available, e = .unexpectedEnd needed available → available = size ∧ size < needed

namespace Guarded

variable {α β : Type} {data : Bytes}

/-- Both readers come from the place `p` to one outcome, at one place, which lies inside the input
and not before `p`. What is read satisfies `P`. -/
inductive Agree (data : Bytes) (P : α → Prop) (p : Place) :
    EStateM.Result Halt Place α → EStateM.Result WireError Cursor α → Prop where
  | read {a : α} {p' : Place} (forward : p.index ≤ p'.index) (inside : p'.index ≤ data.length)
      (holds : P a) : Agree data P p (.ok a p') (.ok a (p'.cursor data))
  | refused {e : WireError} {p' : Place} (forward : p.index ≤ p'.index)
      (inside : p'.index ≤ data.length) (honest : e.Honest data.length) :
      Agree data P p (.error (.refused e) p') (.error e (p'.cursor data))

/-- The guarded reader agrees with the decoder at every place of the input. -/
def Tracks (data : Bytes) (g : Guarded α) (d : Decode α) (P : α → Prop) : Prop :=
  ∀ ⦃p : Place⦄, p.index ≤ data.length → Agree data P p (g p) (d (p.cursor data))

theorem Agree.of_le {P : α → Prop} {p p' : Place} {x : EStateM.Result Halt Place α}
    {y : EStateM.Result WireError Cursor α} (h : Agree data P p' x y)
    (forward : p.index ≤ p'.index) : Agree data P p x y := by
  cases h with
  | read later inside holds => exact .read (Nat.le_trans forward later) inside holds
  | refused later inside honest => exact .refused (Nat.le_trans forward later) inside honest

namespace Tracks

variable {g : Guarded α} {d : Decode α} {P : α → Prop} {h : α → Guarded β} {f : α → Decode β}
  {Q : β → Prop}

protected theorem pure {a : α} (holds : P a) : Tracks data (pure a) (pure a) P :=
  fun _ inside => .read (Nat.le_refl _) inside holds

protected theorem throw {e : WireError} (honest : e.Honest data.length) :
    Tracks data (throw (.refused e)) (throw e) P :=
  fun _ inside => .refused (Nat.le_refl _) inside honest

theorem bind (first : Tracks data g d P) (second : ∀ a, P a → Tracks data (h a) (f a) Q) :
    Tracks data (g >>= h) (d >>= f) Q := by
  intro p inside
  generalize run : g p = x
  generalize run' : d (p.cursor data) = y
  have agree := first inside
  rw [run, run'] at agree
  cases agree with
  | @read a p' forward inside' holds =>
      rw [bind_of_ok run, bind_of_ok run']
      exact (second a holds inside').of_le forward
  | refused forward inside' honest =>
      rw [bind_of_error run, bind_of_error run']
      exact .refused forward inside' honest

theorem map (first : Tracks data g d P) (k : α → β) (imp : ∀ a, P a → Q (k a)) :
    Tracks data (do return k (← g)) (do return k (← d)) Q :=
  first.bind fun a holds => .pure (imp a holds)

theorem imp (first : Tracks data g d P) {R : α → Prop} (imp : ∀ a, P a → R a) :
    Tracks data g d R := by
  intro p inside
  have agree := first inside
  generalize g p = x at agree
  generalize d (p.cursor data) = y at agree
  cases agree with
  | read forward inside' holds => exact .read forward inside' (imp _ holds)
  | refused forward inside' honest => exact .refused forward inside' honest

/-- Before a guarded reader there may stand what faults nowhere and moves nothing. -/
theorem guard {γ : Type} {k : Guarded γ} {c : γ} {g : γ → Guarded α} (first : Tracks data (g c) d P)
    (clear : ∀ p, k p = .ok c p) : Tracks data (k >>= g) d P := by
  intro p inside
  rw [bind_of_ok (clear p)]
  exact first inside

end Tracks

theorem difference_of_le {m n : Nat} (h : n ≤ m) (p : Place) :
    difference m n p = .ok (m - n) p := by
  rw [difference, if_pos h]
  rfl

theorem word_of_le {n : Nat} (h : n ≤ maxPosition) (p : Place) : word n p = .ok n p := by
  rw [word, if_pos h]
  rfl

theorem slice_of_le {raw : Bytes} {start stop : Nat} (ordered : start ≤ stop)
    (inside : stop ≤ raw.length) (p : Place) :
    slice raw start stop p = .ok ((raw.drop start).take (stop - start)) p := by
  rw [slice, if_pos ⟨ordered, inside⟩]
  rfl

theorem slice_front {raw : Bytes} {width : Nat} (enough : width ≤ raw.length) (p : Place) :
    slice raw 0 width p = .ok (raw.take width) p :=
  slice_of_le (Nat.zero_le width) enough p

theorem remaining_of_le {p : Place} (inside : p.index ≤ data.length) :
    remaining data p = .ok (data.length - p.index) p :=
  difference_of_le inside p

theorem expect_of_le {n : Nat} {p : Place} (inside : p.index ≤ data.length)
    (enough : n ≤ data.length - p.index) : expect data n p = .ok () p := by
  rw [expect, bind_of_ok (remaining_of_le inside), if_pos enough]
  rfl

theorem expect_of_lt {n : Nat} {p : Place} (inside : p.index ≤ data.length)
    (short : data.length - p.index < n) : expect data n p =
      .error (.refused (.unexpectedEnd (position (p.index + n)) data.length)) p := by
  rw [expect, bind_of_ok (remaining_of_le inside), if_neg (Nat.not_le_of_lt short)]
  rfl

theorem rest_length (p : Place) : (p.cursor data).rest.length = data.length - p.index :=
  List.length_drop

theorem size_cursor {p : Place} (inside : p.index ≤ data.length) :
    (p.cursor data).size = data.length := by
  rw [Cursor.size, Cursor.remaining, rest_length]
  exact Nat.add_sub_cancel' inside

theorem tracks_ofExcept {r : Except WireError α} {P : α → Prop} (holds : ∀ a, r = .ok a → P a)
    (honest : ∀ e, r = .error e → e.Honest data.length) :
    Tracks data (ofExcept r) (Decode.ofExcept r) P := by
  cases r with
  | ok a => exact .pure (holds a rfl)
  | error e => exact .throw (honest e rfl)

theorem honest_check (t : ScalarType) {raw : Bytes} {e : WireError} (h : t.check raw = .error e)
    (size : Nat) : e.Honest size := by
  rintro needed available rfl
  cases t with
  | word w => cases h
  | bool =>
      rw [ScalarType.check] at h
      split at h <;> cases h

theorem tracks_check (t : ScalarType) (raw : Bytes) :
    Tracks data (ofExcept (t.check raw)) (Decode.ofExcept (t.check raw)) fun _ => True :=
  tracks_ofExcept (fun _ _ => trivial) fun _ h => honest_check t h data.length

theorem tracks_tally (n : Nat) :
    Tracks data (tally n) (Decode.tally n) fun k => k ≤ maxArrayElements := by
  intro p inside
  change Agree data _ p (tally n p) (Decode.tally n ⟨data.drop p.index, p.index, p.elements⟩)
  simp only [tally, Decode.tally]
  by_cases large : maxArrayElements < n
  · simp only [if_pos large]
    exact .refused (Nat.le_refl _) inside (by rintro _ _ ⟨⟩)
  · simp only [if_neg large]
    by_cases many : maxTotalElements < p.elements + n
    · simp only [if_pos many]
      exact .refused (Nat.le_refl p.index) inside (by rintro _ _ ⟨⟩)
    · simp only [if_neg many]
      exact .read (Nat.le_refl p.index) inside (Nat.le_of_not_lt large)

/-- Bytes of one element and more begin with that element. -/
theorem drop_sized {raw : Bytes} {count width : Nat} (sized : raw.length = (count + 1) * width) :
    width ≤ raw.length ∧ (raw.drop width).length = count * width := by
  rw [Nat.succ_mul] at sized
  rw [List.length_drop, sized, Nat.add_sub_cancel]
  exact ⟨Nat.le_add_left _ _, rfl⟩

theorem tracks_checkElements (t : ScalarType) {count : Nat} {raw : Bytes}
    (sized : raw.length = count * t.size) :
    Tracks data (checkElements t count raw) (Decode.ofExcept (View.checkElements t count raw))
      fun _ => True := by
  induction count generalizing raw with
  | zero => exact .pure trivial
  | succ count ih =>
      obtain ⟨enough, rest⟩ := drop_sized sized
      refine Tracks.guard ?_ (slice_front enough)
      rw [View.checkElements]
      cases checked : t.check (raw.take t.size) with
      | ok => exact ih rest
      | error e => exact .throw (honest_check t checked data.length)

theorem values_of_sized (t : ScalarType) {count : Nat} {raw : Bytes}
    (sized : raw.length = count * t.size) (p : Place) :
    values t count raw p = .ok ((blocks t.size count raw []).map t.ofBytes) p := by
  induction count generalizing raw with
  | zero => rfl
  | succ count ih =>
      obtain ⟨enough, rest⟩ := drop_sized sized
      rw [values, bind_of_ok (slice_front enough p), blocks, blocks_append]
      exact bind_of_ok (ih rest)

/-- Bytes that hold a whole number of elements are not refused for their length. -/
theorem tracks_viewOf (t : ScalarType) {count : Nat} {raw : Bytes}
    (sized : raw.length = count * t.size) :
    Tracks data (viewOf t raw) (Decode.ofExcept (View.ofBytes t raw))
      fun v => v.bytes.length = v.length * t.size := by
  -- A refusal for the length would report these bytes and not the input, so it must not occur.
  have even : raw.length % t.size = 0 := by rw [sized, Nat.mul_mod_left]
  have quotient : raw.length / t.size = count := by rw [sized, Nat.mul_div_cancel _ t.size_pos]
  have mapped : Decode.ofExcept (View.ofBytes t raw) = (do
      Decode.ofExcept (View.checkElements t count raw)
      return ⟨raw⟩) := by
    rw [View.ofBytes_of_sized sized]
    cases View.checkElements t count raw <;> rfl
  rw [viewOf, if_pos even, quotient, mapped]
  refine (tracks_checkElements t sized).bind fun _ _ => .pure ?_
  rw [View.length, quotient]
  exact sized

theorem tracks_times {item : Guarded α} {item' : Decode α} {P : α → Prop}
    (h : Tracks data item item' P) (n : Nat) (done : List α) :
    Tracks data (times item n done) (Decode.times item' n done) fun _ => True := by
  induction n generalizing done with
  | zero => exact .pure trivial
  | succ n ih =>
      rw [Decode.times_succ]
      exact h.bind fun a _ => ih (a :: done)

section Reading

variable (addressable : data.length < maxPosition)
include addressable

theorem honest_end {index n : Nat} (short : data.length < index + n) :
    WireError.Honest data.length (.unexpectedEnd (position (index + n)) data.length) := by
  rintro _ _ ⟨⟩
  -- The need may be cut to the largest position, which still lies beyond the input.
  exact ⟨rfl, Nat.lt_min.mpr ⟨short, addressable⟩⟩

theorem tracks_expect (n : Nat) :
    Tracks data (expect data n) (Decode.expect n) fun _ => True := by
  intro p inside
  rcases Nat.lt_or_ge (data.length - p.index) n with short | enough
  · rw [expect_of_lt inside short, Decode.expect_of_lt (by rwa [rest_length]), size_cursor inside]
    exact .refused (Nat.le_refl _) inside (honest_end addressable (by omega))
  · rw [expect_of_le inside enough, Decode.expect_of_le (by rwa [rest_length])]
    exact .read (Nat.le_refl _) inside trivial

theorem tracks_bytes (n : Nat) :
    Tracks data (bytes data n) (Decode.bytes n) fun raw => raw.length = n := by
  intro p inside
  rcases Nat.lt_or_ge (data.length - p.index) n with short | enough
  · rw [bytes, bind_of_error (expect_of_lt inside short),
      Decode.bytes_of_lt (by rwa [rest_length]), size_cursor inside]
    exact .refused (Nat.le_refl _) inside (honest_end addressable (by omega))
  · have stop : p.index + n ≤ data.length := by omega
    have cut : slice data p.index (p.index + n) p = .ok ((data.drop p.index).take n) p := by
      rw [slice_of_le (Nat.le_add_right _ _) stop, Nat.add_sub_cancel_left]
    have run : bytes data n p =
        .ok ((data.drop p.index).take n) { p with index := p.index + n } := by
      rw [bytes, bind_of_ok (expect_of_le inside enough)]
      change (word (p.index + n) >>= _) p = _
      rw [bind_of_ok (word_of_le (by omega) p), bind_of_ok cut]
      rfl
    have moved : ({ p with index := p.index + n } : Place).cursor data =
        { p.cursor data with rest := (p.cursor data).rest.drop n, index := p.index + n } := by
      simp only [Place.cursor, List.drop_drop]
    have sized : ((data.drop p.index).take n).length = n :=
      List.length_take_of_le (by rwa [List.length_drop])
    rw [run, Decode.bytes_of_le (by rwa [rest_length])]
    exact moved ▸ .read (Nat.le_add_right _ _) stop sized

theorem tracks_scalar (t : ScalarType) :
    Tracks data (scalar data t) (Decode.scalar t) fun _ => True := by
  refine (tracks_bytes addressable t.size).bind fun raw sized => ?_
  have whole : raw.take t.size = raw := List.take_of_length_le (Nat.le_of_eq sized)
  refine Tracks.guard ?_ (slice_front (Nat.le_of_eq sized.symm))
  rw [whole]
  exact (tracks_check t raw).bind fun _ _ => .pure trivial

theorem tracks_length : Tracks data (length data) Decode.length fun _ => True :=
  (tracks_scalar addressable (.word .u32)).map _ fun _ _ => trivial

theorem tracks_text : Tracks data (text data) Decode.text fun _ => True := by
  refine (tracks_length addressable).bind fun n _ => ?_
  refine (tracks_bytes addressable n).bind fun raw _ => ?_
  cases textOfBytes? raw with
  | some s => exact .pure trivial
  | none => exact .throw (by rintro _ _ ⟨⟩)

theorem tracks_count :
    Tracks data (count data) Decode.count fun n => n ≤ maxArrayElements :=
  (tracks_length addressable).bind fun n _ => tracks_tally n

theorem tracks_view (t : ScalarType) :
    Tracks data (view data t) (Decode.view t) fun v => v.bytes.length = v.length * t.size := by
  refine (tracks_count addressable).bind fun n small => ?_
  have fits : n * t.size ≤ maxPosition :=
    Nat.le_trans (Nat.mul_le_mul small t.size_le) (by decide)
  refine Tracks.guard ?_ (word_of_le fits)
  exact (tracks_bytes addressable (n * t.size)).bind fun raw sized => tracks_viewOf t sized

theorem tracks_packed (t : ScalarType) :
    Tracks data (packed data t) (Decode.packed t) fun _ => True := by
  refine (tracks_view addressable t).bind fun v sized p inside => ?_
  rw [values_of_sized t sized]
  exact .read (Nat.le_refl _) inside trivial

theorem tracks_list {item : Guarded α} {item' : Decode α} {P : α → Prop}
    (h : Tracks data item item' P) :
    Tracks data (list data item) (Decode.list item') fun _ => True :=
  (tracks_count addressable).bind fun n _ =>
    (tracks_expect addressable n).bind fun _ _ => tracks_times h n []

theorem tracks_option {item : Guarded α} {item' : Decode α} {P : α → Prop}
    (h : Tracks data item item' P) :
    Tracks data (option data item) (Decode.option item') fun _ => True := by
  refine (tracks_scalar addressable .bool).bind fun present _ => ?_
  cases present with
  | true => exact h.map some fun _ _ => trivial
  | false => exact .pure trivial

end Reading

end Guarded

/-- No read makes the guarded reader fault. -/
theorem Read.tracks {data : Bytes} (addressable : data.length < maxPosition) (r : Read) :
    Guarded.Tracks data (r.guarded data) r.decode fun _ => True := by
  induction r with
  | scalar t => exact Guarded.tracks_scalar addressable t
  | text => exact Guarded.tracks_text addressable
  | bytes n => exact (Guarded.tracks_bytes addressable n).imp fun _ _ => trivial
  | count => exact (Guarded.tracks_count addressable).imp fun _ _ => trivial
  | view t => exact (Guarded.tracks_view addressable t).imp fun _ _ => trivial
  | packed t => exact Guarded.tracks_packed addressable t
  | list item ih => exact Guarded.tracks_list addressable ih
  | option item ih => exact Guarded.tracks_option addressable ih
  | pair first second ih ih' =>
      exact ih.bind fun a _ => ih'.map (fun b => (a, b)) fun _ _ => trivial

/-- The state a computation leaves, also where it fails. -/
def stateOf {ε σ α : Type} : EStateM.Result ε σ α → σ
  | .ok _ s => s
  | .error _ s => s

namespace Read

/-- Where a program leaves the cursor. A read that fails leaves it where it stopped, and the next
one goes on from there. -/
def run (program : List Read) (c : Cursor) : Cursor :=
  program.foldl (fun c r => stateOf (r.decode c)) c

def runGuarded (data : Bytes) (program : List Read) (p : Place) : Place :=
  program.foldl (fun p r => stateOf (r.guarded data p)) p

variable {data : Bytes}

theorem step_within (addressable : data.length < maxPosition) (r : Read) {p : Place}
    (inside : p.index ≤ data.length) :
    stateOf (r.decode (p.cursor data)) = (stateOf (r.guarded data p)).cursor data ∧
      (stateOf (r.guarded data p)).index ≤ data.length := by
  have agree := r.tracks addressable inside
  generalize r.guarded data p = x at agree
  generalize r.decode (p.cursor data) = y at agree
  cases agree with
  | read forward inside' _ => exact ⟨rfl, inside'⟩
  | refused forward inside' _ => exact ⟨rfl, inside'⟩

theorem run_within (addressable : data.length < maxPosition) (program : List Read) {p : Place}
    (inside : p.index ≤ data.length) :
    run program (p.cursor data) = (runGuarded data program p).cursor data ∧
      (runGuarded data program p).index ≤ data.length := by
  induction program generalizing p with
  | nil => exact ⟨rfl, inside⟩
  | cons r program ih =>
      obtain ⟨same, inside'⟩ := step_within addressable r inside
      rw [run, runGuarded, List.foldl_cons, List.foldl_cons, same]
      exact ih inside'

/-- After any program of reads, the next read starts inside the input and ends there, not before its
start. It succeeds or is refused as the guarded reader succeeds or is refused, which therefore never
faults; and if it is refused for the end of the input, it reports the length of the input and a need
beyond it. -/
theorem cursor_safe (addressable : data.length < maxPosition) (program : List Read) (next : Read) :
    ∃ p p' : Place, run program (.ofBytes data) = p.cursor data ∧
      runGuarded data program ⟨0, 0⟩ = p ∧
      run (program ++ [next]) (.ofBytes data) = p'.cursor data ∧
      p.index ≤ p'.index ∧ p'.index ≤ data.length ∧
      ((∃ a, next.decode (p.cursor data) = .ok a (p'.cursor data) ∧
          next.guarded data p = .ok a p') ∨
        ∃ e, next.decode (p.cursor data) = .error e (p'.cursor data) ∧
          next.guarded data p = .error (.refused e) p' ∧
          ∀ needed available, e = .unexpectedEnd needed available →
            available = data.length ∧ data.length < needed) := by
  have start : (⟨0, 0⟩ : Place).index ≤ data.length := Nat.zero_le _
  obtain ⟨same, inside⟩ := run_within addressable program start
  change run program (.ofBytes data) = _ at same
  have last : run (program ++ [next]) (.ofBytes data) =
      stateOf (next.decode (run program (.ofBytes data))) := by
    rw [run, List.foldl_append]
    rfl
  rw [same] at last
  have agree := next.tracks addressable inside
  generalize guarded : next.guarded data (runGuarded data program ⟨0, 0⟩) = x at agree
  generalize decoded : next.decode ((runGuarded data program ⟨0, 0⟩).cursor data) = y at agree last
  cases agree with
  | @read a p' forward inside' _ =>
      exact ⟨_, p', same, rfl, last, forward, inside', .inl ⟨a, decoded, guarded⟩⟩
  | @refused e p' forward inside' honest =>
      exact ⟨_, p', same, rfl, last, forward, inside', .inr ⟨e, decoded, guarded, honest⟩⟩

/-- A list whose only item has a bad presence flag, and a byte behind it. -/
def tornList : Bytes := [1, 0, 0, 0, 2, 7]

theorem cursor_safe_tornList :
    tornList.length < maxPosition ∧
      run [.list (.option .text)] (.ofBytes tornList) = ⟨[7], 5, 1⟩ ∧
      ∃ e c', (Read.bytes maxPosition).decode ⟨[7], 5, 1⟩ = .error e c' ∧
        5 ≤ c'.index ∧ c'.index ≤ tornList.length ∧
        ∀ needed available, e = .unexpectedEnd needed available →
          available = tornList.length ∧ tornList.length < needed := by
  have addressable : tornList.length < maxPosition := by decide
  have stopped : run [.list (.option .text)] (.ofBytes tornList) = ⟨[7], 5, 1⟩ := by decide
  have short : (Read.bytes maxPosition).decode ⟨[7], 5, 1⟩ =
      .error (.unexpectedEnd maxPosition 6) ⟨[7], 5, 1⟩ := Decode.bytes_of_lt (by decide)
  obtain ⟨p, p', before, -, -, forward, inside, outcome⟩ :=
    cursor_safe addressable [.list (.option .text)] (.bytes maxPosition)
  have here : p.cursor tornList = ⟨[7], 5, 1⟩ := before.symm.trans stopped
  have five : p.index = 5 := congrArg Cursor.index here
  rw [here] at outcome
  obtain ⟨a, read, -⟩ | ⟨e, refused, -, honest⟩ := outcome
  · cases short.symm.trans read
  · exact ⟨addressable, stopped, e, _, refused, five ▸ forward, inside, honest⟩

end Read
end SchemaWire

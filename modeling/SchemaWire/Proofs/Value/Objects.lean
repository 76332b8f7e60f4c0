import Mathlib.Data.List.Induction
import SchemaWire.Proofs.Value.Bytes

/-!
Objects as maps that remember the order of insertion. After any edits of an empty object a field has
the value it was last set to, and the fields stand in the order in which they were first set since
they were last removed.
-/
namespace SchemaWire

inductive Edit where
  | set (name : String) (v : Value)
  | remove (name : String)

namespace Edit

def name : Edit → String
  | .set name _ => name
  | .remove name => name

/-- The field was set to `v` and has been neither set nor removed since. -/
def LastSet (edits : List Edit) (n : String) (v : Value) : Prop :=
  ∃ i : Nat, edits[i]? = some (.set n v) ∧ ∀ j e, i < j → edits[j]? = some e → e.name ≠ n

/-- The edit at position `i` is the first to set the field since it was last removed. -/
structure FirstSet (edits : List Edit) (n : String) (i : Nat) : Prop where
  sets : ∃ v, edits[i]? = some (.set n v)
  stays : ∀ j, i < j → edits[j]? ≠ some (.remove n)
  first : ∀ j v, j < i → edits[j]? = some (.set n v) →
    ∃ k, j < k ∧ k < i ∧ edits[k]? = some (.remove n)

theorem getElem?_concat {α : Type} {l : List α} {a b : α} {i : Nat} :
    (l ++ [a])[i]? = some b ↔ l[i]? = some b ∨ i = l.length ∧ a = b := by
  rcases Nat.lt_trichotomy i l.length with inside | rfl | outside
  · simp [List.getElem?_append_left inside, Nat.ne_of_lt inside]
  · simp
  · have past : (l ++ [a]).length ≤ i := by
      rw [List.length_append, List.length_singleton]
      exact outside
    rw [List.getElem?_eq_none past, List.getElem?_eq_none (Nat.le_of_lt outside)]
    simp [Nat.ne_of_gt outside]

theorem lt_length {α : Type} {l : List α} {a : α} {i : Nat} (h : l[i]? = some a) : i < l.length :=
  (List.getElem?_eq_some_iff.mp h).1

variable {edits : List Edit} {e : Edit} {n : String} {v : Value} {i : Nat}

theorem lastSet_concat_of_ne (other : e.name ≠ n) :
    LastSet (edits ++ [e]) n v ↔ LastSet edits n v := by
  constructor
  · rintro ⟨i, sets, last⟩
    rcases getElem?_concat.mp sets with sets | ⟨-, rfl⟩
    · exact ⟨i, sets, fun j e' later there => last j e' later (getElem?_concat.mpr (.inl there))⟩
    · exact absurd rfl other
  · rintro ⟨i, sets, last⟩
    refine ⟨i, getElem?_concat.mpr (.inl sets), fun j e' later there => ?_⟩
    rcases getElem?_concat.mp there with there | ⟨-, rfl⟩
    · exact last j e' later there
    · exact other

theorem lastSet_concat (same : e.name = n) : LastSet (edits ++ [e]) n v ↔ e = .set n v := by
  constructor
  · rintro ⟨i, sets, last⟩
    rcases getElem?_concat.mp sets with sets | ⟨-, rfl⟩
    · exact absurd same (last _ e (lt_length sets) (getElem?_concat.mpr (.inr ⟨rfl, rfl⟩)))
    · rfl
  · rintro rfl
    refine ⟨edits.length, getElem?_concat.mpr (.inr ⟨rfl, rfl⟩), fun j e later there => ?_⟩
    have inside := lt_length there
    rw [List.length_append, List.length_singleton] at inside
    omega

/-- A field that is set and not removed later was set a first time. -/
theorem exists_firstSet (sets : edits[i]? = some (.set n v))
    (stays : ∀ j, i < j → edits[j]? ≠ some (.remove n)) : ∃ i, FirstSet edits n i := by
  induction i using Nat.strongRecOn generalizing v with
  | ind i ih =>
      by_cases first : ∀ j v, j < i → edits[j]? = some (.set n v) →
          ∃ k, j < k ∧ k < i ∧ edits[k]? = some (.remove n)
      · exact ⟨i, ⟨v, sets⟩, stays, first⟩
      · -- An earlier edit sets the field, and it stayed up to here.
        push Not at first
        obtain ⟨j, w, earlier, set, kept⟩ := first
        refine ih j earlier set fun k later => ?_
        rcases Nat.lt_trichotomy k i with before | rfl | after
        · exact kept k later before
        · rw [sets]
          intro removed
          cases removed
        · exact stays k after

theorem FirstSet.lt_length (born : FirstSet edits n i) : i < edits.length := by
  obtain ⟨v, sets⟩ := born.sets
  exact Edit.lt_length sets

theorem FirstSet.concat (born : FirstSet edits n i) (keeps : e ≠ .remove n) :
    FirstSet (edits ++ [e]) n i := by
  have inside := born.lt_length
  obtain ⟨⟨v, sets⟩, stays, first⟩ := born
  refine ⟨⟨v, getElem?_concat.mpr (.inl sets)⟩, ?_, ?_⟩
  · intro j later removed
    rcases getElem?_concat.mp removed with removed | ⟨-, removed⟩
    · exact stays j later removed
    · exact keeps removed
  · intro j w earlier set
    rcases getElem?_concat.mp set with set | ⟨rfl, -⟩
    · obtain ⟨k, after, before, removed⟩ := first j w earlier set
      exact ⟨k, after, before, getElem?_concat.mpr (.inl removed)⟩
    · omega

theorem FirstSet.of_concat (born : FirstSet (edits ++ [e]) n i) (inside : i < edits.length) :
    FirstSet edits n i ∧ e ≠ .remove n := by
  obtain ⟨⟨v, sets⟩, stays, first⟩ := born
  refine ⟨⟨⟨v, ?_⟩, ?_, ?_⟩, ?_⟩
  · rwa [List.getElem?_append_left inside] at sets
  · exact fun j later removed => stays j later (getElem?_concat.mpr (.inl removed))
  · intro j w earlier set
    obtain ⟨k, after, before, removed⟩ := first j w earlier (getElem?_concat.mpr (.inl set))
    rcases getElem?_concat.mp removed with removed | ⟨rfl, -⟩
    · exact ⟨k, after, before, removed⟩
    · omega
  · exact fun removed => stays _ inside (getElem?_concat.mpr (.inr ⟨rfl, removed⟩))

theorem firstSet_length (absent : ¬ ∃ j, FirstSet edits n j) (v : Value) :
    FirstSet (edits ++ [.set n v]) n edits.length := by
  refine ⟨⟨v, getElem?_concat.mpr (.inr ⟨rfl, rfl⟩)⟩, ?_, ?_⟩
  · intro j later removed
    rcases getElem?_concat.mp removed with removed | ⟨rfl, -⟩
    · exact Nat.lt_asymm later (lt_length removed)
    · exact Nat.lt_irrefl _ later
  · intro j w earlier set
    rcases getElem?_concat.mp set with set | ⟨rfl, -⟩
    · by_contra never
      push Not at never
      refine absent (exists_firstSet set fun k after removed => ?_)
      exact never k after (lt_length removed) (getElem?_concat.mpr (.inl removed))
    · omega

theorem FirstSet.absent (born : FirstSet (edits ++ [e]) n edits.length) :
    ¬ ∃ j, FirstSet edits n j := by
  rintro ⟨j, ⟨w, set⟩, stays, -⟩
  obtain ⟨k, after, before, removed⟩ :=
    born.first j w (Edit.lt_length set) (getElem?_concat.mpr (.inl set))
  rcases getElem?_concat.mp removed with removed | ⟨rfl, -⟩
  · exact stays k after removed
  · omega

/-- One edit more: what was set first stays so unless it is removed, and a field that is not there
is set for the first time. -/
theorem firstSet_concat : FirstSet (edits ++ [e]) n i ↔
    FirstSet edits n i ∧ e ≠ .remove n ∨
      i = edits.length ∧ (∃ v, e = .set n v) ∧ ¬ ∃ j, FirstSet edits n j := by
  constructor
  · intro born
    obtain ⟨v, sets⟩ := born.sets
    rcases getElem?_concat.mp sets with sets | ⟨rfl, set⟩
    · exact .inl (born.of_concat (lt_length sets))
    · exact .inr ⟨rfl, ⟨v, set⟩, born.absent⟩
  · rintro (⟨born, keeps⟩ | ⟨rfl, ⟨v, rfl⟩, absent⟩)
    · exact born.concat keeps
    · exact firstSet_length absent v

/-- The names are those of the fields that are there, in the order in which they were first set. -/
structure Order (edits : List Edit) (names : List String) : Prop where
  present : ∀ n, n ∈ names ↔ ∃ i, FirstSet edits n i
  sorted : names.Pairwise fun n m => ∀ i j, FirstSet edits n i → FirstSet edits m j → i < j

namespace Order

variable {names : List String}

theorem nil : Order [] [] where
  present n := by
    constructor
    · intro member
      cases member
    · rintro ⟨i, ⟨v, sets⟩, -⟩
      cases sets
  sorted := .nil

variable (h : Order edits names)
include h

theorem nodup : names.Nodup := by
  refine h.sorted.imp_of_mem fun {n m} member _ before => ?_
  rintro rfl
  obtain ⟨i, born⟩ := (h.present n).mp member
  exact Nat.lt_irrefl i (before i i born born)

theorem set_known (known : n ∈ names) (v : Value) : Order (edits ++ [.set n v]) names := by
  have there := (h.present n).mp known
  have same (m : String) (i : Nat) : FirstSet (edits ++ [.set n v]) m i ↔ FirstSet edits m i := by
    rw [firstSet_concat]
    constructor
    · rintro (⟨old, -⟩ | ⟨-, ⟨w, set⟩, absent⟩)
      · exact old
      · cases set
        exact absurd there absent
    · intro old
      exact .inl ⟨old, fun removed => by cases removed⟩
  exact ⟨by simpa only [same] using h.present, by simpa only [same] using h.sorted⟩

theorem set_new (new : n ∉ names) (v : Value) : Order (edits ++ [.set n v]) (names ++ [n]) := by
  have absent : ¬ ∃ i, FirstSet edits n i := fun there => new ((h.present n).mpr there)
  have cases (m : String) (i : Nat) : FirstSet (edits ++ [.set n v]) m i ↔
      FirstSet edits m i ∨ i = edits.length ∧ n = m := by
    rw [firstSet_concat]
    constructor
    · rintro (⟨old, -⟩ | ⟨last, ⟨w, set⟩, -⟩)
      · exact .inl old
      · cases set
        exact .inr ⟨last, rfl⟩
    · rintro (old | ⟨last, rfl⟩)
      · exact .inl ⟨old, fun removed => by cases removed⟩
      · exact .inr ⟨last, ⟨v, rfl⟩, absent⟩
  refine ⟨?_, ?_⟩
  · intro m
    simp only [List.mem_append, h.present, List.mem_singleton, cases, exists_or,
      exists_eq_left, eq_comm]
  · refine List.pairwise_append.mpr ⟨?_, List.pairwise_singleton .., ?_⟩
    · refine h.sorted.imp_of_mem fun {m k} first second before i j => ?_
      rw [cases, cases]
      rintro (mine | ⟨-, rfl⟩) (yours | ⟨-, rfl⟩)
      · exact before i j mine yours
      · exact absurd second new
      · exact absurd first new
      · exact absurd first new
    · intro m member k last i j
      rw [List.mem_singleton] at last
      subst last
      rw [cases, cases]
      rintro (mine | ⟨-, rfl⟩) (yours | ⟨rfl, -⟩)
      · exact absurd ⟨j, yours⟩ absent
      · exact mine.lt_length
      · exact absurd member new
      · exact absurd member new

theorem remove (n : String) : Order (edits ++ [.remove n]) (names.filter (· != n)) := by
  have cases (m : String) (i : Nat) : FirstSet (edits ++ [.remove n]) m i ↔
      FirstSet edits m i ∧ m ≠ n := by
    rw [firstSet_concat]
    constructor
    · rintro (⟨old, keeps⟩ | ⟨-, ⟨w, set⟩, -⟩)
      · exact ⟨old, fun same => keeps (by rw [same])⟩
      · cases set
    · rintro ⟨old, other⟩
      exact .inl ⟨old, fun removed => other (Edit.remove.inj removed).symm⟩
  refine ⟨?_, ?_⟩
  · intro m
    simp only [List.mem_filter, h.present, bne_iff_ne, cases, exists_and_right]
  · refine (h.sorted.filter _).imp fun {m k} before i j mine yours => ?_
    rw [cases] at mine yours
    exact before i j mine.1 yours.1

end Order
end Edit

namespace Value

def editFields (fields : List (String × Value)) : Edit → List (String × Value)
  | .set name v => insert name v fields
  | .remove name => fields.filter (·.1 != name)

def edit (v : Value) : Edit → Value
  | .set name x => v.set name x
  | .remove name => v.remove name

def edited (v : Value) (edits : List Edit) : Value :=
  edits.foldl edit v

theorem edited_object (struct : String) (fields : List (String × Value)) (edits : List Edit) :
    (Value.object struct fields).edited edits = .object struct (edits.foldl editFields fields) := by
  induction edits generalizing fields with
  | nil => rfl
  | cons e edits ih =>
      cases e with
      | set name v => exact ih (insert name v fields)
      | remove name => exact ih (fields.filter (·.1 != name))

section Fields

variable (name : String) (x : Value) (fields : List (String × Value))

theorem insert_cons_self (old : Value) :
    insert name x ((name, old) :: fields) = (name, x) :: fields := by
  rw [insert, BEq.rfl, if_pos rfl]

theorem insert_cons_of_ne {key : String} (differ : key ≠ name) (old : Value) :
    insert name x ((key, old) :: fields) = (key, old) :: insert name x fields := by
  rw [insert, if_neg (by rwa [beq_iff_eq])]

theorem lookup_insert_self : lookup name (insert name x fields) = some x := by
  induction fields with
  | nil => exact lookup_cons_self name x []
  | cons entry rest ih =>
      obtain ⟨key, old⟩ := entry
      by_cases same : key = name
      · subst same
        rw [insert_cons_self, lookup_cons_self]
      · rw [insert_cons_of_ne name x rest same, lookup_cons_of_ne same, ih]

theorem lookup_insert_of_ne {m : String} (other : m ≠ name) :
    lookup m (insert name x fields) = lookup m fields := by
  induction fields with
  | nil => exact lookup_cons_of_ne other.symm x []
  | cons entry rest ih =>
      obtain ⟨key, old⟩ := entry
      by_cases same : key = name
      · subst same
        rw [insert_cons_self, lookup_cons_of_ne other.symm, lookup_cons_of_ne other.symm]
      · rw [insert_cons_of_ne name x rest same]
        by_cases mine : key = m
        · subst mine
          rw [lookup_cons_self, lookup_cons_self]
        · rw [lookup_cons_of_ne mine, lookup_cons_of_ne mine, ih]

theorem names_insert_of_mem (known : name ∈ fields.map (·.1)) :
    (insert name x fields).map (·.1) = fields.map (·.1) := by
  induction fields with
  | nil => cases known
  | cons entry rest ih =>
      obtain ⟨key, old⟩ := entry
      by_cases same : key = name
      · subst same
        rw [insert_cons_self]
        rfl
      · have later := (List.mem_cons.mp known).resolve_left (Ne.symm same)
        rw [insert_cons_of_ne name x rest same, List.map_cons, ih later, List.map_cons]

theorem names_insert_of_notMem (new : name ∉ fields.map (·.1)) :
    (insert name x fields).map (·.1) = fields.map (·.1) ++ [name] := by
  induction fields with
  | nil => rfl
  | cons entry rest ih =>
      obtain ⟨key, old⟩ := entry
      rw [List.map_cons, List.mem_cons, not_or] at new
      obtain ⟨other, later⟩ := new
      rw [insert_cons_of_ne name x rest (Ne.symm other), List.map_cons, ih later, List.map_cons,
        List.cons_append]

theorem names_remove :
    (fields.filter (·.1 != name)).map (·.1) = (fields.map (·.1)).filter (· != name) := by
  rw [List.filter_map]
  rfl

theorem lookup_remove_self : lookup name (fields.filter (·.1 != name)) = none := by
  apply lookup_eq_none
  rw [names_remove]
  intro member
  exact bne_iff_ne.mp (List.mem_filter.mp member).2 rfl

theorem lookup_remove_of_ne {m : String} (other : m ≠ name) :
    lookup m (fields.filter (·.1 != name)) = lookup m fields :=
  lookup_filter (· != name) (bne_iff_ne.mpr other) fields

end Fields

theorem lookup_editFields_of_ne {m : String} {e : Edit} (other : e.name ≠ m)
    (fields : List (String × Value)) : lookup m (editFields fields e) = lookup m fields := by
  cases e with
  | set name v => exact lookup_insert_of_ne name v fields other.symm
  | remove name => exact lookup_remove_of_ne name fields other.symm

theorem lookup_editFields (e : Edit) (fields : List (String × Value)) (v : Value) :
    lookup e.name (editFields fields e) = some v ↔ e = .set e.name v := by
  cases e with
  | set name x =>
      change lookup name (insert name x fields) = some v ↔ Edit.set name x = .set name v
      rw [lookup_insert_self, Option.some.injEq, Edit.set.injEq, and_iff_right rfl]
  | remove name =>
      change lookup name (fields.filter (·.1 != name)) = some v ↔ Edit.remove name = .set name v
      rw [lookup_remove_self]
      constructor
      · intro found
        cases found
      · intro set
        cases set

theorem order_editFields {edits : List Edit} {fields : List (String × Value)}
    (h : Edit.Order edits (fields.map (·.1))) (e : Edit) :
    Edit.Order (edits ++ [e]) ((editFields fields e).map (·.1)) := by
  cases e with
  | set name v =>
      by_cases known : name ∈ fields.map (·.1)
      · have order := h.set_known known v
        rwa [← names_insert_of_mem name v fields known] at order
      · have order := h.set_new known v
        rwa [← names_insert_of_notMem name v fields known] at order
  | remove name =>
      have order := h.remove name
      rwa [← names_remove] at order

theorem lookup_foldl_editFields (edits : List Edit) (n : String) (v : Value) :
    lookup n (edits.foldl editFields []) = some v ↔ Edit.LastSet edits n v := by
  induction edits using List.reverseRecOn with
  | nil =>
      constructor
      · intro found
        cases found
      · rintro ⟨i, sets, -⟩
        cases sets
  | append_singleton edits e ih =>
      rw [List.foldl_append, List.foldl_cons, List.foldl_nil]
      by_cases same : e.name = n
      · subst same
        rw [lookup_editFields, Edit.lastSet_concat rfl]
      · rw [lookup_editFields_of_ne same, Edit.lastSet_concat_of_ne same, ih]

theorem order_foldl_editFields (edits : List Edit) :
    Edit.Order edits ((edits.foldl editFields []).map (·.1)) := by
  induction edits using List.reverseRecOn with
  | nil => exact Edit.Order.nil
  | append_singleton edits e ih =>
      rw [List.foldl_append, List.foldl_cons, List.foldl_nil]
      exact order_editFields ih e

/-- Objects are maps that remember the order of insertion. After any edits of an empty one the names
are distinct, a field has the value it was last set to unless it was removed since, and the fields
stand in the order in which they were first set since they were last removed. What a look-up gives
after one edit does not depend on the names being distinct. -/
theorem object_insertion_ordered (struct : String) :
    (∀ edits : List Edit, ∃ fields : List (String × Value),
      (Value.object struct []).edited edits = .object struct fields ∧
      (fields.map (·.1)).Nodup ∧
      (∀ n v, ((Value.object struct []).edited edits).get? n = some v ↔ Edit.LastSet edits n v) ∧
      (∀ n, n ∈ fields.map (·.1) ↔ ∃ i, Edit.FirstSet edits n i) ∧
      (fields.map (·.1)).Pairwise fun n m =>
        ∀ i j, Edit.FirstSet edits n i → Edit.FirstSet edits m j → i < j) ∧
    ∀ (fields : List (String × Value)) (n m : String),
      (∀ x, ((Value.object struct fields).set n x).get? m =
        if m = n then some x else (Value.object struct fields).get? m) ∧
      ((Value.object struct fields).remove n).get? m =
        if m = n then none else (Value.object struct fields).get? m := by
  refine ⟨fun edits => ?_, fun fields n m => ⟨fun x => ?_, ?_⟩⟩
  · have order := order_foldl_editFields edits
    refine ⟨edits.foldl editFields [], edited_object struct [] edits, order.nodup, fun n v => ?_,
      order.present, order.sorted⟩
    rw [edited_object]
    exact lookup_foldl_editFields edits n v
  · split
    next same =>
      subst same
      exact lookup_insert_self m x fields
    next other => exact lookup_insert_of_ne n x fields other
  · split
    next same =>
      subst same
      exact lookup_remove_self m fields
    next other => exact lookup_remove_of_ne n fields other

/-- A field that is removed and set again stands last; one that is only set again stays. -/
example (x y z : Value) : (Value.object "S" []).edited
    [.set "a" x, .set "b" x, .set "c" x, .remove "a", .set "b" y, .set "a" z] =
      .object "S" [("b", y), ("c", x), ("a", z)] := by
  rfl

end Value
end SchemaWire

import Mathlib.Algebra.BigOperators.Group.List.Basic
import SchemaWire.Proofs.Schema.WellFormed
import SchemaWire.Proofs.Value.Bytes

/-!
Canonical form. `canon` puts the fields of every object in declaration order and keeps the first of
any name; a value in that form is left as it is. `elements` and `longest` measure the arrays of a
value against the limits of decoders.
-/
namespace SchemaWire.Value

mutual

/-- The number of elements of all arrays in a value, at every depth. -/
def elements : Value → Nat
  | .scalar .. | .text _ => 0
  | .array items => items.length + elementsItems items
  | .object _ fields => elementsEntries fields

def elementsItems : List Value → Nat
  | [] => 0
  | item :: rest => elements item + elementsItems rest

def elementsEntries : List (String × Value) → Nat
  | [] => 0
  | (_, v) :: rest => elements v + elementsEntries rest

end

mutual

/-- The length of the longest array in a value, at any depth. -/
def longest : Value → Nat
  | .scalar .. | .text _ => 0
  | .array items => max items.length (longestItems items)
  | .object _ fields => longestEntries fields

def longestItems : List Value → Nat
  | [] => 0
  | item :: rest => max (longest item) (longestItems rest)

def longestEntries : List (String × Value) → Nat
  | [] => 0
  | (_, v) :: rest => max (longest v) (longestEntries rest)

end

/-- The arrays of a value are within the limits of one array and of one message. -/
structure WithinLimits (v : Value) : Prop where
  arrays : v.longest ≤ maxArrayElements
  total : v.elements ≤ maxTotalElements

mutual

/-- The value with the fields of every object in declaration order and the first of any name kept.
An object of a struct that the schema does not have stays as it is. -/
def canon (schema : Schema) : Value → Value
  | .scalar t x => .scalar t x
  | .text s => .text s
  | .array items => .array (canonItems schema items)
  | .object name fields =>
    match schema.def? name with
    | some d => .object name (d.fields.filterMap fun f =>
        (canonNamed schema fields f.name).map fun v => (f.name, v))
    | none => .object name fields

def canonItems (schema : Schema) : List Value → List Value
  | [] => []
  | item :: rest => canon schema item :: canonItems schema rest

/-- The canonical form of the first entry of a name, if there is one. -/
def canonNamed (schema : Schema) : List (String × Value) → String → Option Value
  | [], _ => none
  | (key, v) :: rest, name =>
    if key == name then some (canon schema v) else canonNamed schema rest name

end

/-- Every object, at every depth, lists fields of its struct in declaration order, none twice. -/
inductive Canonical (schema : Schema) : Value → Prop where
  | scalar (t : ScalarType) (x : t.Carrier) : Canonical schema (.scalar t x)
  | text (s : String) : Canonical schema (.text s)
  | array {items : List Value} (each : ∀ v ∈ items, Canonical schema v) :
      Canonical schema (.array items)
  | object {name : String} {fields : List (String × Value)}
      (ordered : ∀ d, schema.def? name = some d →
        (fields.map (·.1)).Sublist (d.fields.map (·.name)))
      (each : ∀ key v, (key, v) ∈ fields → Canonical schema v) :
      Canonical schema (.object name fields)

theorem canonItems_eq (schema : Schema) (items : List Value) :
    canonItems schema items = items.map (canon schema) := by
  induction items with
  | nil => rfl
  | cons item rest ih => rw [canonItems, ih, List.map_cons]

theorem canonNamed_eq (schema : Schema) (fields : List (String × Value)) (name : String) :
    canonNamed schema fields name = (lookup name fields).map (canon schema) := by
  induction fields with
  | nil => rfl
  | cons entry rest ih =>
      simp only [canonNamed, lookup, ih]
      split <;> rfl

theorem elementsItems_eq (items : List Value) :
    elementsItems items = (items.map elements).sum := by
  induction items with
  | nil => rfl
  | cons item rest ih => rw [elementsItems, ih, List.map_cons, List.sum_cons]

theorem elementsEntries_eq (fields : List (String × Value)) :
    elementsEntries fields = (fields.map fun entry => entry.2.elements).sum := by
  induction fields with
  | nil => rfl
  | cons entry rest ih => rw [elementsEntries, ih, List.map_cons, List.sum_cons]

theorem longestItems_le {items : List Value} {v : Value} (member : v ∈ items) :
    v.longest ≤ longestItems items := by
  induction items with
  | nil => cases member
  | cons item rest ih =>
      rw [longestItems]
      rcases List.mem_cons.mp member with rfl | later
      · exact Nat.le_max_left ..
      · exact Nat.le_trans (ih later) (Nat.le_max_right ..)

theorem longestItems_le_of_forall {items : List Value} {n : Nat}
    (each : ∀ v ∈ items, v.longest ≤ n) : longestItems items ≤ n := by
  induction items with
  | nil => exact Nat.zero_le n
  | cons item rest ih =>
      obtain ⟨head, tail⟩ := List.forall_mem_cons.mp each
      rw [longestItems, Nat.max_le]
      exact ⟨head, ih tail⟩

theorem longestEntries_le {fields : List (String × Value)} {key : String} {v : Value}
    (member : (key, v) ∈ fields) : v.longest ≤ longestEntries fields := by
  induction fields with
  | nil => cases member
  | cons entry rest ih =>
      rw [longestEntries]
      rcases List.mem_cons.mp member with rfl | later
      · exact Nat.le_max_left ..
      · exact Nat.le_trans (ih later) (Nat.le_max_right ..)

/-- Distinct names find entries that weigh no more than all entries together. -/
theorem sum_lookup_le (weight : Value → Nat) {names : List String} (nodup : names.Nodup)
    (fields : List (String × Value)) :
    (names.map fun name => ((lookup name fields).map weight).getD 0).sum ≤
      (fields.map fun entry => weight entry.2).sum := by
  induction fields generalizing names with
  | nil =>
      simp [lookup]
  | cons entry rest ih =>
      obtain ⟨key, v⟩ := entry
      rw [List.map_cons, List.sum_cons]
      by_cases member : key ∈ names
      · -- One name finds the first entry, the others look behind it.
        have apart : ∀ name ∈ names.erase key,
            ((lookup name ((key, v) :: rest)).map weight).getD 0 =
              ((lookup name rest).map weight).getD 0 := by
          intro name later
          have differ : key ≠ name := fun same => nodup.not_mem_erase (same ▸ later)
          rw [lookup_cons_of_ne differ]
        rw [((List.perm_cons_erase member).map _).sum_eq, List.map_cons, List.sum_cons,
          lookup_cons_self, List.map_congr_left apart]
        exact Nat.add_le_add_left (ih (nodup.erase key)) _
      · have apart : ∀ name ∈ names, ((lookup name ((key, v) :: rest)).map weight).getD 0 =
            ((lookup name rest).map weight).getD 0 := by
          intro name later
          have differ : key ≠ name := fun same => member (same ▸ later)
          rw [lookup_cons_of_ne differ]
        rw [List.map_congr_left apart]
        exact Nat.le_trans (ih nodup) (Nat.le_add_left ..)

/-- Looking up distinct names in their order gives back entries that keep to it. -/
theorem filterMap_lookup {names : List String} (nodup : names.Nodup)
    {fields : List (String × Value)} (ordered : (fields.map (·.1)).Sublist names) :
    (names.filterMap fun name => (lookup name fields).map fun v => (name, v)) = fields := by
  induction names generalizing fields with
  | nil =>
      rw [List.sublist_nil, List.map_eq_nil_iff] at ordered
      subst ordered
      rfl
  | cons name names ih =>
      obtain ⟨fresh, distinct⟩ := List.nodup_cons.mp nodup
      rcases List.sublist_cons_iff.mp ordered with skipped | ⟨keys, same, kept⟩
      · have absent := lookup_eq_none fun member => fresh (skipped.subset member)
        rw [List.filterMap_cons_none (by rw [absent]; rfl), ih distinct skipped]
      · cases fields with
        | nil => cases same
        | cons entry rest =>
            obtain ⟨key, v⟩ := entry
            cases same
            have apart : ∀ later ∈ names,
                ((lookup later ((key, v) :: rest)).map fun v => (later, v)) =
                  (lookup later rest).map fun v => (later, v) := by
              intro later member
              have differ : key ≠ later := fun same => fresh (same ▸ member)
              rw [lookup_cons_of_ne differ]
            rw [List.filterMap_cons_some (by rw [lookup_cons_self]; rfl),
              List.filterMap_congr apart, ih distinct kept]

theorem canon_eq_self {schema : Schema} (wf : schema.WellFormed) {v : Value}
    (h : v.Canonical schema) : canon schema v = v := by
  induction v with
  | scalar t x => rfl
  | text s => rfl
  | array items ih =>
      cases h with
      | array each =>
          rw [canon, canonItems_eq]
          have same : items.map (canon schema) = items.map id := by
            refine List.map_congr_left ?_
            intro v member
            exact ih v member (each v member)
          rw [same, List.map_id]
  | object name fields ih =>
      cases h with
      | object ordered each =>
          rw [canon]
          cases found : schema.def? name with
          | none => rfl
          | some d =>
              have known : d ∈ schema.defs := by
                rw [Schema.def?_eq_find?] at found
                exact List.mem_of_find?_eq_some found
              have nodup := wf.field_names_nodup d known
              have same := filterMap_lookup nodup (ordered d found)
              rw [List.filterMap_map] at same
              have entries : (d.fields.filterMap fun f =>
                  (canonNamed schema fields f.name).map fun v => (f.name, v)) = fields := by
                refine Eq.trans (List.filterMap_congr ?_) same
                intro f _
                rw [canonNamed_eq, Function.comp_apply]
                cases stored : lookup f.name fields with
                | none => rfl
                | some v =>
                    have member := mem_of_lookup stored
                    rw [Option.map_some, ih f.name v member (each f.name v member)]
              exact congrArg (Value.object name) entries

end SchemaWire.Value

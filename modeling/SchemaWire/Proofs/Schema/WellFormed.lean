import Mathlib.Data.Finset.Card
import Mathlib.Data.Finset.Range
import Mathlib.Logic.Relation
import SchemaWire.Schema.Basic

/-!
Well-formed schemas. References between structs lead nowhere back, so every struct has a rank below
the number of structs that decreases along references.
-/
namespace SchemaWire

/-- The struct a type comes down to, through any arrays. -/
def FieldType.struct? : FieldType → Option Nat
  | .primitive _ => none
  | .struct index => some index
  | .array element => element.struct?

namespace Schema

/-- A field of the struct at `i` comes down to the struct at `j`. -/
def Refers (s : Schema) (i j : Nat) : Prop :=
  ∃ d, s.defs[i]? = some d ∧ ∃ f ∈ d.fields, f.type.struct? = some j

structure WellFormed (s : Schema) : Prop where
  names_nodup : (s.defs.map (·.name)).Nodup
  fields_nonempty : ∀ d ∈ s.defs, d.fields ≠ []
  field_names_nodup : ∀ d ∈ s.defs, (d.fields.map (·.name)).Nodup
  in_range : ∀ d ∈ s.defs, ∀ f ∈ d.fields, ∀ j, f.type.struct? = some j → j < s.defs.length
  acyclic : ∀ i, ¬ Relation.TransGen s.Refers i i
  optional_struct : ∀ d ∈ s.defs, ∀ f ∈ d.fields, f.optional = true → ∃ j, f.type = .struct j

/-- What decoding relies on: every struct takes bytes, and references between structs end. -/
structure Grounded (s : Schema) : Prop where
  fields_nonempty : ∀ d ∈ s.defs, d.fields ≠ []
  in_range : ∀ d ∈ s.defs, ∀ f ∈ d.fields, ∀ j, f.type.struct? = some j → j < s.defs.length
  acyclic : ∀ i, ¬ Relation.TransGen s.Refers i i

theorem WellFormed.grounded {s : Schema} (wf : s.WellFormed) : s.Grounded :=
  ⟨wf.fields_nonempty, wf.in_range, wf.acyclic⟩

/-- References that go down in some measure lead nowhere back. -/
theorem acyclic_of_measure {s : Schema} (measure : Nat → Nat)
    (down : ∀ i j, s.Refers i j → measure j < measure i) (i : Nat) :
    ¬ Relation.TransGen s.Refers i i := by
  intro cycle
  have lower : ∀ j, Relation.TransGen s.Refers i j → measure j < measure i := by
    intro j path
    induction path with
    | single step => exact down _ _ step
    | tail _ step ih => exact Nat.lt_trans (down _ _ step) ih
  exact Nat.lt_irrefl _ (lower i cycle)

/-- References that only lead to structs declared before end. -/
theorem Grounded.of_backward {s : Schema} (nonempty : ∀ d ∈ s.defs, d.fields ≠ [])
    (back : ∀ entry ∈ s.defs.zipIdx, ∀ f ∈ entry.1.fields,
      f.type.struct?.all (· < entry.2) = true) : s.Grounded := by
  have earlier : ∀ i j, s.Refers i j → j < i := by
    rintro i j ⟨d, found, f, member, leads⟩
    have lower := back (d, i) (List.mk_mem_zipIdx_iff_getElem?.mpr found) f member
    rw [leads, Option.all_some] at lower
    exact of_decide_eq_true lower
  refine ⟨nonempty, ?_, acyclic_of_measure id earlier⟩
  intro d defined f member j leads
  obtain ⟨i, bound, rfl⟩ := List.getElem_of_mem defined
  exact Nat.lt_trans (earlier i j ⟨_, List.getElem?_eq_getElem bound, f, member, leads⟩) bound

open Classical in
/-- How many structs a struct leads to. -/
noncomputable def rank (s : Schema) (i : Nat) : Nat :=
  ((Finset.range s.defs.length).filter (Relation.TransGen s.Refers i)).card

namespace Grounded

variable {s : Schema} (grounded : s.Grounded)
include grounded

theorem refers_lt {i j : Nat} (h : s.Refers i j) : j < s.defs.length := by
  obtain ⟨d, found, f, member, leads⟩ := h
  exact grounded.in_range d (List.mem_of_getElem? found) f member j leads

theorem rank_lt_of_refers {i j : Nat} (h : s.Refers i j) : s.rank j < s.rank i := by
  classical
  apply Finset.card_lt_card
  refine Finset.ssubset_iff_subset_ne.mpr ⟨?_, ?_⟩
  · intro k member
    obtain ⟨bound, path⟩ := Finset.mem_filter.mp member
    exact Finset.mem_filter.mpr ⟨bound, .head h path⟩
  · -- The struct referred to is reached from its referrer but not from itself.
    intro same
    have reached : j ∈ (Finset.range s.defs.length).filter (Relation.TransGen s.Refers i) :=
      Finset.mem_filter.mpr ⟨Finset.mem_range.mpr (grounded.refers_lt h), .single h⟩
    rw [← same] at reached
    exact grounded.acyclic j (Finset.mem_filter.mp reached).2

theorem rank_lt_length {i : Nat} (h : i < s.defs.length) : s.rank i < s.defs.length := by
  classical
  have fewer : s.rank i < (Finset.range s.defs.length).card := by
    apply Finset.card_lt_card
    refine Finset.ssubset_iff_subset_ne.mpr ⟨Finset.filter_subset _ _, ?_⟩
    intro same
    -- All structs would be reached, the one at `i` itself among them.
    have reached := Finset.mem_range.mpr h
    rw [← same] at reached
    exact grounded.acyclic i (Finset.mem_filter.mp reached).2
  rwa [Finset.card_range] at fewer

end Grounded

namespace WellFormed

variable {s : Schema} (wf : s.WellFormed)
include wf

theorem index_unique {i j : Nat} {d e : StructDef} (hi : s.defs[i]? = some d)
    (hj : s.defs[j]? = some e) (same : d.name = e.name) : i = j := by
  have bound : i < (s.defs.map (·.name)).length := by
    rw [List.length_map]
    exact (List.getElem?_eq_some_iff.mp hi).1
  refine (List.getElem?_inj bound wf.names_nodup).mp ?_
  simp only [List.getElem?_map, hi, hj, Option.map_some, same]

theorem indexOf?_name {i : Nat} {d : StructDef} (h : s.defs[i]? = some d) :
    s.indexOf? d.name = some i := by
  obtain ⟨bound, there⟩ := List.getElem?_eq_some_iff.mp h
  rw [indexOf?_eq_findIdx?]
  refine List.findIdx?_eq_some_iff_getElem.mpr ⟨bound, beq_iff_eq.mpr (by rw [there]), ?_⟩
  intro j earlier same
  have inside : j < s.defs.length := Nat.lt_trans earlier bound
  have placed := wf.index_unique (List.getElem?_eq_getElem inside) h (beq_iff_eq.mp same)
  exact Nat.ne_of_lt earlier placed

theorem def?_name {i : Nat} {d : StructDef} (h : s.defs[i]? = some d) :
    s.def? d.name = some d := by
  rw [def?, wf.indexOf?_name h, Option.bind_some, h]

end WellFormed
end Schema
end SchemaWire

import Mathlib.Data.List.Forall2
import SchemaWire.Document.Compile
import SchemaWire.Proofs.Binds
import SchemaWire.Proofs.Document.Validity
import SchemaWire.Proofs.Schema.WellFormed

/-!
Resolving names. The schema of a document keeps every struct and field in place and puts the
position of a declaration for each name. A document without violations has such a schema, and it is
well formed.
-/
namespace SchemaWire

/-- Where each element has a good result, so has the whole list. -/
theorem exists_mapM_forall₂ {ε α β : Type} {f : α → Except ε β} {R : α → β → Prop} {xs : List α}
    (each : ∀ x ∈ xs, ∃ y, f x = .ok y ∧ R x y) :
    ∃ ys, xs.mapM f = .ok ys ∧ List.Forall₂ R xs ys := by
  induction xs with
  | nil => exact ⟨[], rfl, .nil⟩
  | cons x xs ih =>
      obtain ⟨y, computed, related⟩ := each x (List.mem_cons_self ..)
      obtain ⟨ys, rest, all⟩ := ih fun z member => each z (List.mem_cons_of_mem x member)
      refine ⟨y :: ys, ?_, .cons related all⟩
      rw [List.mapM_cons]
      exact except_bind_eq_ok.mpr ⟨y, computed, except_bind_eq_ok.mpr ⟨ys, rest, rfl⟩⟩

theorem forall₂_mem_right {α β : Type} {R : α → β → Prop} {xs : List α} {ys : List β}
    (all : List.Forall₂ R xs ys) {y : β} (member : y ∈ ys) : ∃ x ∈ xs, R x y := by
  obtain ⟨i, bound, rfl⟩ := List.getElem_of_mem member
  have bound' : i < xs.length := all.length_eq ▸ bound
  exact ⟨xs[i], List.getElem_mem bound', all.get bound' bound⟩

theorem forall₂_map_eq {α β γ : Type} {R : α → β → Prop} {xs : List α} {ys : List β}
    {f : α → γ} {g : β → γ} (all : List.Forall₂ R xs ys) (same : ∀ x y, R x y → g y = f x) :
    ys.map g = xs.map f := by
  induction all with
  | nil => rfl
  | cons related _ ih => rw [List.map_cons, List.map_cons, same _ _ related, ih]

namespace Document

/-- The type of the same shape with a declaration's position in place of its name. -/
inductive Resolved (d : Document) : TypeExpr → FieldType → Prop where
  | primitive (p : PrimitiveType) : Resolved d (.primitive p) (.primitive p)
  | named {j : Nat} {s : StructDecl} (located : d.structs[j]? = some s) :
      Resolved d (.named s.name) (.struct j)
  | array {element : TypeExpr} {type : FieldType} (inner : Resolved d element type) :
      Resolved d (.array element) (.array type)

structure ResolvedField (d : Document) (f : FieldDecl) (g : FieldDef) : Prop where
  name : g.name = f.name
  optional : g.optional = f.optional
  type : d.Resolved f.type g.type

structure ResolvedStruct (d : Document) (s : StructDecl) (e : StructDef) : Prop where
  name : e.name = s.name
  fields : List.Forall₂ d.ResolvedField s.fields e.fields

variable {d : Document}

/-- A position in a resolved type stands for a name of the type as written. -/
theorem Resolved.names {type : TypeExpr} {type' : FieldType} (h : d.Resolved type type') {j : Nat}
    (leads : type'.struct? = some j) : ∃ s, d.structs[j]? = some s ∧ type.Names s.name := by
  induction h with
  | primitive p => cases leads
  | @named i s located =>
      obtain rfl := Option.some.inj leads
      exact ⟨s, located, .named s.name⟩
  | array _ ih =>
      obtain ⟨s, located, names⟩ := ih leads
      exact ⟨s, located, .array names⟩

theorem exists_resolveType {type : TypeExpr}
    (declared : ∀ name, type.Names name → ∃ t ∈ d.structs, t.name = name) :
    ∃ type', d.resolveType type = .ok type' ∧ d.Resolved type type' := by
  induction type with
  | primitive p => exact ⟨.primitive p, rfl, .primitive p⟩
  | named name =>
      obtain ⟨t, member, named⟩ := declared name (.named name)
      have found : (d.structs.findIdx? (·.name == name)).isSome = true := by
        rw [List.findIdx?_isSome, List.any_eq_true]
        exact ⟨t, member, beq_iff_eq.mpr named⟩
      obtain ⟨j, first⟩ := Option.isSome_iff_exists.mp found
      obtain ⟨bound, same, -⟩ := List.findIdx?_eq_some_iff_getElem.mp first
      obtain rfl := beq_iff_eq.mp same
      exact ⟨.struct j, by rw [resolveType, first], .named (List.getElem?_eq_getElem bound)⟩
  | array element ih =>
      obtain ⟨type', computed, resolved⟩ := ih fun name inner => declared name (.array inner)
      exact ⟨.array type', by rw [resolveType, computed]; rfl, .array resolved⟩

theorem exists_resolveStruct {s : StructDecl}
    (declared : ∀ f ∈ s.fields, ∀ name, f.type.Names name → ∃ t ∈ d.structs, t.name = name) :
    ∃ e, d.resolveStruct s = .ok e ∧ d.ResolvedStruct s e := by
  have each : ∀ f ∈ s.fields, ∃ g, d.resolveField f = .ok g ∧ d.ResolvedField f g := by
    intro f member
    obtain ⟨type, computed, resolved⟩ := exists_resolveType (declared f member)
    exact ⟨⟨f.name, type, f.optional⟩, except_bind_eq_ok.mpr ⟨type, computed, rfl⟩,
      ⟨rfl, rfl, resolved⟩⟩
  obtain ⟨fields, computed, resolved⟩ := exists_mapM_forall₂ each
  exact ⟨⟨s.name, fields⟩, except_bind_eq_ok.mpr ⟨fields, computed, rfl⟩, ⟨rfl, resolved⟩⟩

/-- No pass has anything to say about a document without violations. -/
theorem passes_of_valid (valid : d.violations = []) :
    d.structureViolations = [] ∧ d.referenceViolations = [] ∧ d.namingViolations = [] ∧
      d.cycleViolations = [] := by
  simpa only [violations, List.append_eq_nil_iff, and_assoc] using valid

theorem exists_toSchema (valid : d.violations = []) :
    ∃ schema, d.toSchema = .ok schema ∧ List.Forall₂ d.ResolvedStruct d.structs schema.defs := by
  obtain ⟨-, references, -, -⟩ := passes_of_valid valid
  have declared := referenceViolations_eq_nil_iff.mp references
  obtain ⟨defs, computed, resolved⟩ := exists_mapM_forall₂ fun s member =>
    exists_resolveStruct fun f field => (declared s member f field).1
  have verified : d.verify = .ok () := by rw [verify, valid]
  have lowered : d.toSchema = .ok ⟨defs⟩ :=
    except_bind_eq_ok.mpr ⟨(), verified, except_bind_eq_ok.mpr ⟨defs, computed, rfl⟩⟩
  exact ⟨⟨defs⟩, lowered, resolved⟩

section Resolved

variable {schema : Schema} (resolved : List.Forall₂ d.ResolvedStruct d.structs schema.defs)
include resolved

/-- Declarations and definitions stand at the same positions. -/
theorem resolved_at {i : Nat} {e : StructDef} (located : schema.defs[i]? = some e) :
    ∃ s, d.structs[i]? = some s ∧ d.ResolvedStruct s e := by
  obtain ⟨bound, rfl⟩ := List.getElem?_eq_some_iff.mp located
  have bound' : i < d.structs.length := resolved.length_eq ▸ bound
  exact ⟨d.structs[i], List.getElem?_eq_getElem bound', resolved.get bound' bound⟩

theorem refersTo_of_refers {i j : Nat} (h : schema.Refers i j) :
    ∃ s t, d.structs[i]? = some s ∧ d.structs[j]? = some t ∧ d.RefersTo s.name t.name := by
  obtain ⟨e, located, g, member, leads⟩ := h
  obtain ⟨s, located, struct⟩ := resolved_at resolved located
  obtain ⟨f, field, same⟩ := forall₂_mem_right struct.fields member
  obtain ⟨t, target, names⟩ := same.type.names leads
  exact ⟨s, t, located, target, s, List.mem_of_getElem? located, rfl, f, field, names⟩

/-- A way through the definitions is a way through the names of the declarations. -/
theorem transGen_refersTo {i j : Nat} (path : Relation.TransGen schema.Refers i j) :
    ∃ s t, d.structs[i]? = some s ∧ d.structs[j]? = some t ∧
      Relation.TransGen d.RefersTo s.name t.name := by
  induction path with
  | single step =>
      obtain ⟨s, t, located, target, refers⟩ := refersTo_of_refers resolved step
      exact ⟨s, t, located, target, .single refers⟩
  | tail _ step ih =>
      obtain ⟨s, t, located, target, before⟩ := ih
      obtain ⟨t', u, located', target', refers⟩ := refersTo_of_refers resolved step
      obtain rfl := Option.some.inj (target.symm.trans located')
      exact ⟨s, u, located, target', before.tail refers⟩

theorem wellFormed_of_resolved (valid : d.violations = []) : schema.WellFormed := by
  obtain ⟨structural, references, naming, cycles⟩ := passes_of_valid valid
  obtain ⟨-, nonempty⟩ := structureViolations_eq_nil_iff.mp structural
  obtain ⟨named, nodup⟩ := namingViolations_eq_nil_iff.mp naming
  have typed := referenceViolations_eq_nil_iff.mp references
  have edges : d.graph.Edge = d.RefersTo := funext₂ fun node next =>
    propext (edge_iff nodup (fun s member f field => (typed s member f field).1) node next)
  have acyclic := cycleViolations_eq_nil_iff.mp cycles
  rw [edges] at acyclic
  refine ⟨?_, ?_, ?_, ?_, ?_, ?_⟩
  · rwa [forall₂_map_eq resolved fun _ _ struct => struct.name]
  · intro e member empty
    obtain ⟨s, declared, struct⟩ := forall₂_mem_right resolved member
    have fields := struct.fields
    rw [empty, List.forall₂_nil_right_iff] at fields
    exact nonempty s declared fields
  · intro e member
    obtain ⟨s, declared, struct⟩ := forall₂_mem_right resolved member
    rw [forall₂_map_eq struct.fields fun _ _ field => field.name]
    exact (named s declared).2.2.2
  · intro e member g field j leads
    obtain ⟨s, -, struct⟩ := forall₂_mem_right resolved member
    obtain ⟨f, -, same⟩ := forall₂_mem_right struct.fields field
    obtain ⟨t, located, -⟩ := same.type.names leads
    rw [← resolved.length_eq]
    exact (List.getElem?_eq_some_iff.mp located).1
  · intro i cycle
    obtain ⟨s, t, located, target, path⟩ := transGen_refersTo resolved cycle
    obtain rfl := Option.some.inj (located.symm.trans target)
    exact acyclic s.name path
  · intro e member g field optional
    obtain ⟨s, declared, struct⟩ := forall₂_mem_right resolved member
    obtain ⟨f, written, same⟩ := forall₂_mem_right struct.fields field
    obtain ⟨name, direct⟩ := (typed s declared f written).2 (same.optional ▸ optional)
    have type := same.type
    rw [direct] at type
    cases type' : g.type with
    | struct j => exact ⟨j, rfl⟩
    | primitive p => rw [type'] at type; cases type
    | array element => rw [type'] at type; cases type

end Resolved
end Document
end SchemaWire

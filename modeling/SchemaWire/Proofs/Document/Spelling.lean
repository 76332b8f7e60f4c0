import SchemaWire.Proofs.Document.Bare
import SchemaWire.Proofs.Document.Resolution
import SchemaWire.Proofs.Document.RoundTrip

/-!
Resolved schemas spelled out as documents again, with the name of a definition for its position. A
valid document comes back from its schema but for what a schema does not keep, its positions and doc
comments.
-/
namespace SchemaWire

namespace Schema

/-- The type with the names of definitions for their positions, if each of them is there. -/
def spell? (schema : Schema) : FieldType → Option TypeExpr
  | .primitive p => some (.primitive p)
  | .struct j => schema.defs[j]?.map fun e => .named e.name
  | .array element => (schema.spell? element).map .array

def spellField? (schema : Schema) (g : FieldDef) : Option FieldDecl :=
  (schema.spell? g.type).map fun type => ⟨g.name, ⟨0, 0⟩, none, type, g.optional⟩

def spellStruct? (schema : Schema) (e : StructDef) : Option StructDecl :=
  (e.fields.mapM schema.spellField?).map fun fields => ⟨e.name, ⟨0, 0⟩, none, fields⟩

/-- The document of bare declarations that a schema stands for. -/
def toDocument? (schema : Schema) : Option Document :=
  (schema.defs.mapM schema.spellStruct?).map Document.mk

theorem WellFormed.indexOf?_eq_some_iff {schema : Schema} (wf : schema.WellFormed) {name : String}
    {i : Nat} : schema.indexOf? name = some i ↔ ∃ e, schema.defs[i]? = some e ∧ e.name = name := by
  constructor
  · intro found
    rw [indexOf?_eq_findIdx?] at found
    obtain ⟨bound, same, -⟩ := List.findIdx?_eq_some_iff_getElem.mp found
    exact ⟨_, List.getElem?_eq_getElem bound, beq_iff_eq.mp same⟩
  · rintro ⟨e, located, rfl⟩
    exact wf.indexOf?_name located

end Schema

/-- Where each result has its element back, so has the whole list. -/
theorem mapM_eq_some_of_forall₂ {α β γ : Type} {R : α → β → Prop} {f : β → Option γ} {g : α → γ}
    {xs : List α} {ys : List β} (all : List.Forall₂ R xs ys)
    (back : ∀ x y, R x y → f y = some (g x)) : ys.mapM f = some (xs.map g) := by
  induction all with
  | nil => rfl
  | cons related _ ih =>
      rw [List.mapM_cons, back _ _ related, ih]
      rfl

namespace Document

variable {d : Document}

section Resolved

variable {schema : Schema} (resolved : List.Forall₂ d.ResolvedStruct d.structs schema.defs)
include resolved

theorem spell?_of_resolved {type : TypeExpr} {type' : FieldType} (h : d.Resolved type type') :
    schema.spell? type' = some type := by
  induction h with
  | primitive p => rfl
  | @named j s located =>
      have bound : j < schema.defs.length :=
        resolved.length_eq ▸ (List.getElem?_eq_some_iff.mp located).1
      have there := List.getElem?_eq_getElem bound
      obtain ⟨s', located', struct⟩ := resolved_at resolved there
      obtain rfl := Option.some.inj (located.symm.trans located')
      rw [Schema.spell?, there, Option.map_some, struct.name]
  | array _ ih => rw [Schema.spell?, ih, Option.map_some]

theorem spellField?_of_resolved {f : FieldDecl} {g : FieldDef} (h : d.ResolvedField f g) :
    schema.spellField? g = some f.bare := by
  rw [Schema.spellField?, spell?_of_resolved resolved h.type, h.name, h.optional]
  rfl

theorem spellStruct?_of_resolved {s : StructDecl} {e : StructDef} (h : d.ResolvedStruct s e) :
    schema.spellStruct? e = some s.bare := by
  rw [Schema.spellStruct?, h.name,
    mapM_eq_some_of_forall₂ h.fields fun _ _ => spellField?_of_resolved resolved]
  rfl

theorem toDocument?_of_resolved : schema.toDocument? = some d.bare := by
  rw [Schema.toDocument?,
    mapM_eq_some_of_forall₂ resolved fun _ _ => spellStruct?_of_resolved resolved]
  rfl

end Resolved

theorem toSchema_of_invalid (invalid : d.violations ≠ []) :
    d.toSchema = .error (.invalid d.violations) := by
  have refused : d.verify = .error (.invalid d.violations) := by
    rw [verify]
    split
    · contradiction
    · rfl
  rw [toSchema, refused]
  rfl

theorem toSchema_eq_error_iff {e : CompileError} :
    d.toSchema = .error e ↔ d.violations ≠ [] ∧ e = .invalid d.violations := by
  constructor
  · intro failed
    have invalid : d.violations ≠ [] := by
      intro valid
      obtain ⟨schema, computed, -⟩ := exists_toSchema valid
      rw [computed] at failed
      cases failed
    rw [toSchema_of_invalid invalid] at failed
    exact ⟨invalid, (Except.error.inj failed).symm⟩
  · rintro ⟨invalid, rfl⟩
    exact toSchema_of_invalid invalid

/-- A document is refused for its violations and for nothing else, so no name turns out unknown
later. Without violations its schema is well formed, spells the same declarations in the same order,
and finds every definition where it stands. -/
theorem toSchema_faithful (d : Document) :
    (∀ e, d.toSchema = .error e ↔ d.violations ≠ [] ∧ e = .invalid d.violations) ∧
      (d.violations = [] → ∃ schema, d.toSchema = .ok schema ∧ schema.toDocument? = some d.bare ∧
        (∀ name i, schema.indexOf? name = some i ↔
          ∃ e, schema.defs[i]? = some e ∧ e.name = name) ∧ schema.WellFormed) := by
  refine ⟨fun e => toSchema_eq_error_iff, ?_⟩
  intro valid
  obtain ⟨schema, computed, resolved⟩ := exists_toSchema valid
  have wf := wellFormed_of_resolved resolved valid
  refine ⟨schema, computed, toDocument?_of_resolved resolved, ?_, wf⟩
  intro name i
  exact wf.indexOf?_eq_some_iff

/-- Paths name their points before these are declared. -/
def routesSchema : Schema := ⟨[
  ⟨"Path", [⟨"at", .struct 1, true⟩, ⟨"grid", .array (.array (.struct 1)), false⟩]⟩,
  ⟨"Point", [⟨"x", .primitive (.scalar (.word .u8)), false⟩]⟩]⟩

theorem toSchema_faithful_routes :
    routes.violations = [] ∧ routes.toSchema = .ok routesSchema ∧
      routesSchema.toDocument? = some routes.bare ∧ routesSchema.indexOf? "Point" = some 1 ∧
      routesSchema.WellFormed := by
  have resolved : routes.structs.mapM routes.resolveStruct = .ok routesSchema.defs := by
    decide +kernel
  have verified : routes.verify = .ok () := by rw [verify, routes_violations]
  have lowered : routes.toSchema = .ok routesSchema :=
    except_bind_eq_ok.mpr ⟨(), verified, except_bind_eq_ok.mpr ⟨_, resolved, rfl⟩⟩
  obtain ⟨schema, computed, spelled, found, wf⟩ := (toSchema_faithful routes).2 routes_violations
  obtain rfl := Except.ok.inj (lowered.symm.trans computed)
  exact ⟨routes_violations, lowered, spelled, (found "Point" 1).mpr ⟨_, rfl, rfl⟩, wf⟩

end Document
end SchemaWire

import Mathlib.Data.List.Basic
import SchemaWire.Document.Validity

/-!
Declarations without their positions and doc comments. That is all the rules look at, so documents
that are alike otherwise break the same rules.
-/
namespace SchemaWire

def FieldDecl.bare (f : FieldDecl) : FieldDecl := { f with position := ⟨0, 0⟩, doc := none }

def StructDecl.bare (s : StructDecl) : StructDecl :=
  { s with position := ⟨0, 0⟩, doc := none, fields := s.fields.map FieldDecl.bare }

def Document.bare (d : Document) : Document := ⟨d.structs.map StructDecl.bare⟩

namespace Document

theorem names_bare (d : Document) : d.bare.names = d.names := by
  simp [names, bare, StructDecl.bare]

theorem structureViolations_bare (d : Document) :
    d.bare.structureViolations = d.structureViolations := by
  simp [structureViolations, bare, StructDecl.bare, List.filter_map, Function.comp_def]

theorem referenceViolations_bare (d : Document) :
    d.bare.referenceViolations = d.referenceViolations := by
  rw [referenceViolations, names_bare, bare, List.flatMap_map]
  apply List.flatMap_congr
  intro s _
  exact List.flatMap_map ..

theorem structNameViolations_bare (s : StructDecl) (repeated : Bool) :
    structNameViolations s.bare repeated = structNameViolations s repeated := by
  have names : s.bare.fields.map (·.name) = s.fields.map (·.name) := by
    simp [StructDecl.bare, FieldDecl.bare]
  rw [structNameViolations, names]
  apply congrArg
  rw [StructDecl.bare, List.zip_map_left, List.flatMap_map]
  rfl

theorem namingViolations_bare (d : Document) : d.bare.namingViolations = d.namingViolations := by
  rw [namingViolations, names_bare, bare, List.zip_map_left, List.flatMap_map]
  apply List.flatMap_congr
  rintro ⟨s, repeated⟩ _
  exact structNameViolations_bare s repeated

theorem references_bare (known : Std.HashSet String) (s : StructDecl) :
    references known s.bare = references known s := by
  rw [references, StructDecl.bare, List.filterMap_map]
  rfl

theorem firstDecls_bare (d : Document) : d.bare.firstDecls = d.firstDecls.map StructDecl.bare := by
  rw [firstDecls, names_bare, bare, List.zip_map_left, List.filter_map, List.map_map, firstDecls,
    List.map_map]
  rfl

theorem graph_bare (d : Document) : d.bare.graph = d.graph := by
  simp only [graph, names_bare, firstDecls_bare, List.map_map, List.foldl_map, references_bare]
  rfl

theorem violations_bare (d : Document) : d.bare.violations = d.violations := by
  rw [violations, structureViolations_bare, referenceViolations_bare, namingViolations_bare,
    cycleViolations, graph_bare]
  rfl

end Document
end SchemaWire

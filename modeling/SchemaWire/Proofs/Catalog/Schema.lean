import SchemaWire.Catalog
import SchemaWire.Document.Compile
import SchemaWire.Proofs.Document.Validity
import SchemaWire.Proofs.Schema.WellFormed

/-! The catalogue as a schema document, and the well-formed schema it resolves to. -/
namespace SchemaWire.Catalog

/-- A required field declared on a line of its own. -/
def declared (line : Nat) (name : String) (type : TypeExpr) : FieldDecl :=
  ⟨name, ⟨line, 5⟩, none, type, false⟩

def declaredWord (line : Nat) (name : String) (w : WordType) : FieldDecl :=
  declared line name (.primitive (.scalar (.word w)))

/-- The declarations of the four message types. -/
def document : Document where
  structs := [
    { name := "Point"
      position := ⟨5, 8⟩
      doc := some "Two-dimensional point."
      fields := [declaredWord 6 "x" .f32, declaredWord 7 "y" .f32] },
    { name := "AllPrimitives"
      position := ⟨11, 8⟩
      doc := some "One of every primitive type."
      fields := [
        declaredWord 12 "a_u8" .u8, declaredWord 13 "a_u16" .u16, declaredWord 14 "a_u32" .u32,
        declaredWord 15 "a_u64" .u64, declaredWord 16 "a_i8" .i8, declaredWord 17 "a_i16" .i16,
        declaredWord 18 "a_i32" .i32, declaredWord 19 "a_i64" .i64, declaredWord 20 "a_f32" .f32,
        declaredWord 21 "a_f64" .f64, declared 22 "a_bool" (.primitive (.scalar .bool)),
        declared 23 "a_str" (.primitive .text)] },
    { name := "Item"
      position := ⟨26, 8⟩
      doc := none
      fields := [
        declaredWord 27 "id" .u32, declared 28 "name" (.primitive .text),
        declared 29 "tags" (.array (.primitive .text)),
        declared 30 "weights" (.array (.primitive (.scalar (.word .f64))))] },
    { name := "Inventory"
      position := ⟨34, 8⟩
      doc := some "Nested arrays, an optional struct and arrays of structs."
      fields := [
        declared 35 "owner" (.primitive .text),
        ⟨"origin", ⟨37, 5⟩, some "Where the inventory was taken, if known.", .named "Point", true⟩,
        declared 38 "items" (.array (.named "Item")),
        declared 39 "grid" (.array (.array (.primitive (.scalar (.word .u8))))),
        declared 40 "flags" (.array (.primitive (.scalar .bool)))] }]

def required (name : String) (type : FieldType) : FieldDef := ⟨name, type, false⟩

def requiredWord (name : String) (w : WordType) : FieldDef :=
  required name (.primitive (.scalar (.word w)))

def pointDef : StructDef := ⟨"Point", [requiredWord "x" .f32, requiredWord "y" .f32]⟩

def allPrimitivesDef : StructDef where
  name := "AllPrimitives"
  fields := [
    requiredWord "a_u8" .u8, requiredWord "a_u16" .u16, requiredWord "a_u32" .u32,
    requiredWord "a_u64" .u64, requiredWord "a_i8" .i8, requiredWord "a_i16" .i16,
    requiredWord "a_i32" .i32, requiredWord "a_i64" .i64, requiredWord "a_f32" .f32,
    requiredWord "a_f64" .f64, required "a_bool" (.primitive (.scalar .bool)),
    required "a_str" (.primitive .text)]

def itemDef : StructDef where
  name := "Item"
  fields := [
    requiredWord "id" .u32, required "name" (.primitive .text),
    required "tags" (.array (.primitive .text)),
    required "weights" (.array (.primitive (.scalar (.word .f64))))]

def inventoryDef : StructDef where
  name := "Inventory"
  fields := [
    required "owner" (.primitive .text), ⟨"origin", .struct 0, true⟩,
    required "items" (.array (.struct 2)),
    required "grid" (.array (.array (.primitive (.scalar (.word .u8))))),
    required "flags" (.array (.primitive (.scalar .bool)))]

def schema : Schema := ⟨[pointDef, allPrimitivesDef, itemDef, inventoryDef]⟩

theorem document_referenceViolations : document.referenceViolations = [] := by
  simp [Document.referenceViolations, Document.fieldReferenceViolations, Document.names, document,
    declared, declaredWord, TypeExpr.named?]

theorem document_namingViolations : document.namingViolations = [] :=
  Document.namingViolations_eq_nil_iff_byCode.mpr (by decide +kernel)

theorem document_cycleViolations : document.cycleViolations = [] := by
  -- Only inventories refer to other structs.
  apply Document.cycleViolations_eq_nil_of_measure fun name => if name = "Inventory" then 1 else 0
  simp [document, declared, declaredWord, TypeExpr.named?]

theorem document_violations : document.violations = [] := by
  have structural : document.structureViolations = [] := by decide
  rw [Document.violations, structural, document_referenceViolations, document_namingViolations,
    document_cycleViolations]
  rfl

/-- The document is valid and resolves to the schema. -/
theorem toSchema_document : document.toSchema = .ok schema := by
  have resolved : document.structs.mapM document.resolveStruct = .ok schema.defs := by
    decide +kernel
  have valid : document.verify = .ok () := by
    rw [Document.verify, document_violations]
  rw [Document.toSchema, valid]
  show (document.structs.mapM document.resolveStruct).map Schema.mk = .ok schema
  rw [resolved]
  rfl

theorem schema_grounded : schema.Grounded := .of_backward (by decide) (by decide)

theorem schema_wellFormed : schema.WellFormed where
  names_nodup := by decide
  fields_nonempty := schema_grounded.fields_nonempty
  field_names_nodup := by decide
  in_range := schema_grounded.in_range
  acyclic := schema_grounded.acyclic
  optional_struct := by
    simp [schema, pointDef, allPrimitivesDef, itemDef, inventoryDef, required, requiredWord]

end SchemaWire.Catalog

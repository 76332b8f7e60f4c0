import SchemaWire.Document.Parse
import SchemaWire.Document.Validity
import SchemaWire.Schema.Basic

/-! From schema text to checked documents and resolved schemas. -/
namespace SchemaWire

namespace Document

def verify (d : Document) : Except CompileError Unit :=
  match d.violations with
  | [] => .ok ()
  | violations => .error (.invalid violations)

/-- Reads a text, without checking what it means. -/
def parse (text : String) : Except CompileError Document := (ofText text).mapError .parse

def compile (text : String) : Except CompileError Document := do
  let d ← parse text
  d.verify
  return d

/-- A type with its names resolved to positions of declarations. -/
def resolveType (d : Document) : TypeExpr → Except CompileError FieldType
  | .primitive p => .ok (.primitive p)
  | .named name =>
    match d.structs.findIdx? (·.name == name) with
    | some index => .ok (.struct index)
    | none => .error (.generate (.unknownType name))
  | .array element => do return .array (← resolveType d element)

def resolveField (d : Document) (f : FieldDecl) : Except CompileError FieldDef := do
  return ⟨f.name, ← d.resolveType f.type, f.optional⟩

def resolveStruct (d : Document) (s : StructDecl) : Except CompileError StructDef := do
  return ⟨s.name, ← s.fields.mapM d.resolveField⟩

def toSchema (d : Document) : Except CompileError Schema := do
  d.verify
  return ⟨← d.structs.mapM d.resolveStruct⟩

end Document
end SchemaWire

import SchemaWire.Document.Cycles
import SchemaWire.Document.Reserved

/-!
The rules a document must keep. Four passes look at structure, type references, names and cycles;
every pass always runs, so that one call reports all that is wrong.
-/
namespace SchemaWire

def isIdentStart (c : Char) : Bool := c.isAlpha || c == '_'

def isIdentChar (c : Char) : Bool := c.isAlphanum || c == '_'

/-- What keeps a name from being an identifier: ASCII letters, digits and underscores, no digit
first. -/
def nameProblem? (name : String) : Option NameProblem :=
  match name.toList with
  | [] => some .empty
  | c :: rest =>
    if !isIdentStart c then some (.badStart c)
    else (rest.find? (!isIdentChar ·)).map .badCharacter

namespace Document

/-- There is a struct, and every struct has a field. -/
def structureViolations (d : Document) : List Violation :=
  if d.structs.isEmpty then [.emptySchema]
  else (d.structs.filter (·.fields.isEmpty)).map fun s => .emptyStruct s.name

/-- A field names declared structs only, and is optional only if its type is a struct. -/
def fieldReferenceViolations (known : Std.HashSet String) (struct : String) (f : FieldDecl) :
    List Violation :=
  (match f.type.named? with
    | some name => if known.contains name then [] else [.unknownType struct f.name name]
    | none => []) ++
  (match f.optional, f.type with
    | false, _ | true, .named _ => []
    | true, type => [.invalidOptional struct f.name type])

def referenceViolations (d : Document) : List Violation :=
  let known := Std.HashSet.ofList d.names
  d.structs.flatMap fun s => s.fields.flatMap (fieldReferenceViolations known s.name)

/-- A field's name is an identifier, free, and not taken by an earlier field. -/
def fieldNameViolations (struct : String) (f : FieldDecl) (repeated : Bool) : List Violation :=
  ((nameProblem? f.name).map (.invalidFieldName struct f.name)).toList ++
  (match Reserved.forField f.name with
    | [] => []
    | owners => [.reservedFieldName struct f.name owners]) ++
  (if repeated then [.duplicateField struct f.name] else [])

/-- A struct's name is an identifier, free, and not taken by an earlier struct; then its fields'. -/
def structNameViolations (s : StructDecl) (repeated : Bool) : List Violation :=
  ((nameProblem? s.name).map (.invalidStructName s.name)).toList ++
  (match Reserved.forStruct s.name with
    | [] => []
    | owners => [.reservedStructName s.name owners]) ++
  (if repeated then [.duplicateStruct s.name] else []) ++
  (s.fields.zip (repeats (s.fields.map (·.name)))).flatMap fun (f, repeated) =>
    fieldNameViolations s.name f repeated

def namingViolations (d : Document) : List Violation :=
  (d.structs.zip (repeats d.names)).flatMap fun (s, repeated) => structNameViolations s repeated

def violations (d : Document) : List Violation :=
  d.structureViolations ++ d.referenceViolations ++ d.namingViolations ++ d.cycleViolations

end Document
end SchemaWire

import Std.Data.HashMap
import SchemaWire.Codegen.Names
import SchemaWire.Document.Violation

/-! Documents whose generated names collide, or whose structs outnumber the type ids, are refused. -/
namespace SchemaWire.Codegen

/-- Names already given, each with what it was given to. -/
abbrev Given := Std.HashMap String String

/-- Gives out a name, or fails with its previous owner. -/
def give (fault : (previous : String) → GenerateError) (name owner : String) (given : Given) :
    Except GenerateError Given :=
  match given[name]? with
  | some previous => .error (fault previous)
  | none => .ok (given.insert name owner)

def giveTypes (s : StructDecl) (given : Given) : Except GenerateError Given :=
  let owner := Violation.structLabel s.name
  [Form.owned, .borrowed, .stored].foldlM (fun given form =>
    let name := formName s.name form
    give (.typeNameTaken · owner name) name owner given) given

def giveFields (s : StructDecl) : Except GenerateError Given :=
  s.fields.foldlM (fun given f =>
    let name := fieldName f
    give (.fieldNameTaken s.name · f.name name) name f.name given) ∅

def initiallyGiven : Given :=
  takenNames.foldl (fun given name => given.insert name "the generated runtime") ∅

/-- Refuses a document that cannot be turned into a Rust file. -/
def check (d : Document) : Except GenerateError Unit := do
  if 65535 < d.structs.length then throw (.tooManyStructs d.structs.length)
  let _ ← d.structs.foldlM (fun given s => do
    let given ← giveTypes s given
    let _ ← giveFields s
    return given) initiallyGiven

end SchemaWire.Codegen

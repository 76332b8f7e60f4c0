import SchemaWire.Json
import SchemaWire.Schema.Basic

/-! Schema documents: struct declarations as written, names not yet resolved. -/
namespace SchemaWire

/-- A place in a text. Lines and columns count from one, columns in code points. -/
structure Position where
  line : Nat
  column : Nat
deriving DecidableEq, Repr

inductive TypeExpr where
  | primitive (p : PrimitiveType)
  | named (name : String)
  | array (element : TypeExpr)
deriving DecidableEq, Repr

structure FieldDecl where
  name : String
  position : Position
  doc : Option String
  type : TypeExpr
  optional : Bool
deriving DecidableEq, Repr

structure StructDecl where
  name : String
  position : Position
  doc : Option String
  fields : List FieldDecl
deriving DecidableEq, Repr

structure Document where
  structs : List StructDecl
deriving DecidableEq, Repr

/-- The first declaration of that name. -/
def Document.get? (d : Document) (name : String) : Option StructDecl :=
  d.structs.find? (·.name == name)

namespace TypeExpr

/-- The struct name a type comes down to, through any arrays. -/
def named? : TypeExpr → Option String
  | .primitive _ => none
  | .named name => some name
  | .array element => element.named?

def spelling : TypeExpr → String
  | .primitive p => p.name
  | .named name => name
  | .array element => "[]" ++ element.spelling

def toJson : TypeExpr → Json
  | .primitive p => .object [("kind", .string "primitive"), ("of", .string p.name)]
  | .named name => .object [("kind", .string "named"), ("of", .string name)]
  | .array element => .object [("kind", .string "array"), ("of", element.toJson)]

end TypeExpr

/-- The members that name a declaration, say where it stands and document it. -/
def jsonHead (name : String) (position : Position) (doc : Option String) : List (String × Json) :=
  [("name", .string name), ("line", .nat position.line), ("column", .nat position.column)] ++
    match doc with
    | some text => [("doc", .string text)]
    | none => []

def FieldDecl.toJson (f : FieldDecl) : Json :=
  .object (jsonHead f.name f.position f.doc ++
    [("type", f.type.toJson), ("optional", .bool f.optional)])

def StructDecl.toJson (s : StructDecl) : Json :=
  .object (jsonHead s.name s.position s.doc ++ [("fields", .array (s.fields.map (·.toJson)))])

def Document.toJson (d : Document) : Json :=
  .object [("structs", .array (d.structs.map (·.toJson)))]

end SchemaWire

import SchemaWire.Codegen.Names

/-! The generated types of fields, and which structs need a lifetime to borrow for. -/
namespace SchemaWire.Codegen

def fixed? : TypeExpr → Option ScalarType
  | .primitive (.scalar t) => some t
  | _ => none

/-- The borrowed form of a type holds borrowed data, given the structs that do. -/
def borrows (borrowing : List String) : TypeExpr → Bool
  | .primitive (.scalar _) => false
  | .primitive .text => true
  | .named name => borrowing.contains name
  | .array element => (fixed? element).isSome || borrows borrowing element

/-- Adds each struct with a field that borrows. -/
def borrowRound (structs : List StructDecl) (borrowing : List String) : List String :=
  structs.foldl (fun borrowing s =>
    if borrowing.contains s.name then borrowing
    else if s.fields.any fun f => borrows borrowing f.type then s.name :: borrowing
    else borrowing) borrowing

/-- Repeats rounds until one adds nothing; `rounds` bounds how many. -/
def borrowUntilStable (structs : List StructDecl) : (rounds : Nat) → List String → List String
  | 0, borrowing => borrowing
  | rounds + 1, borrowing =>
    let next := borrowRound structs borrowing
    if next.length == borrowing.length then borrowing
    else borrowUntilStable structs rounds next

/-- The structs whose borrowed form needs a lifetime. A round that adds nothing is the last, and
no more rounds add something than there are structs. -/
def borrowingStructs (d : Document) : List String :=
  borrowUntilStable d.structs d.structs.length []

def formType (borrowing : List String) (form : Form) : TypeExpr → String
  | .primitive (.scalar t) => t.name
  | .primitive .text =>
    match form with
    | .owned => "String"
    | .borrowed => "&'a str"
    | .stored => "ArenaStr"
  | .named name =>
    if form == .borrowed && borrowing.contains name then formName name form ++ "<'a>"
    else formName name form
  | .array element =>
    match fixed? element, form with
    | some t, .owned => "Vec<" ++ t.name ++ ">"
    | some t, .borrowed => "ArrayView<'a, " ++ t.name ++ ">"
    | some t, .stored => "ArenaSlice<" ++ t.name ++ ">"
    | none, .stored => "ArenaList<" ++ formType borrowing form element ++ ">"
    | none, _ => "Vec<" ++ formType borrowing form element ++ ">"

def fieldType (borrowing : List String) (form : Form) (f : FieldDecl) : String :=
  let type := formType borrowing form f.type
  if f.optional then "Option<" ++ type ++ ">" else type

end SchemaWire.Codegen

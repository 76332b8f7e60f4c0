import SchemaWire.Codegen.Types

/-! The generated expressions that measure, write, read and copy one value. -/
namespace SchemaWire.Codegen

def sizeExpr (place : String) : TypeExpr → String
  | .primitive (.scalar t) => toString t.size
  | .primitive .text => "4 + " ++ place ++ ".len()"
  | .named _ => place ++ ".encoded_size()"
  | .array element =>
    match fixed? element with
    | some t => "4 + " ++ place ++ ".len() * " ++ toString t.size
    | none =>
      "4 + " ++ place ++ ".iter().map(|v| " ++ sizeExpr "v" element ++ ").sum::<usize>()"

/-- Writes the value at a place, which is a reference already or still has to be borrowed. -/
def encodeExpr (place : String) (byRef : Bool) : TypeExpr → String
  | .primitive (.scalar t) =>
    "bb.write_" ++ t.name ++ "(" ++ (if byRef then "*" else "") ++ place ++ ")"
  | .primitive .text => "bb.write_str(" ++ (if byRef then "" else "&") ++ place ++ ")"
  | .named _ => place ++ ".encode_to(bb)"
  | .array element =>
    let borrowed := (if byRef then "" else "&") ++ place
    match fixed? element with
    | some _ => "bb.write_slice(" ++ borrowed ++ ")"
    | none => "bb.write_array(" ++ borrowed ++ ", |bb, v| " ++ encodeExpr "v" true element ++ ")"

def decodeExpr (form : Form) : TypeExpr → String
  | .primitive (.scalar t) => "bb.read_" ++ t.name ++ "()"
  | .primitive .text =>
    match form with
    | .owned => "bb.read_str().map(str::to_owned)"
    | .borrowed => "bb.read_str()"
    | .stored => "ctx.read_str(bb)"
  | .named name =>
    match form with
    | .stored => formName name form ++ "::decode_in(bb, ctx)"
    | _ => formName name form ++ "::decode_from(bb, ctx)"
  | .array element =>
    match fixed? element, form with
    | some t, .owned => "bb.read_primitives::<" ++ t.name ++ ", _>(ctx)"
    | some t, .borrowed => "bb.read_view::<" ++ t.name ++ ", _>(ctx)"
    | some t, .stored => "ctx.read_primitives::<" ++ t.name ++ ">(bb)"
    | none, .stored => "ctx.read_list(bb, |bb, ctx| " ++ decodeExpr form element ++ ")"
    | none, _ => "bb.read_vec(ctx, |bb, ctx| " ++ decodeExpr form element ++ ")"

/-- Copies what the borrowed value at a place borrows. -/
def toOwnedExpr (place : String) : TypeExpr → String
  | .primitive (.scalar _) => place
  | .primitive .text => place ++ ".to_owned()"
  | .named _ => place ++ ".into_owned()"
  | .array element =>
    match fixed? element with
    | some _ => place ++ ".to_vec()"
    | none => place ++ ".into_iter().map(|v| " ++ toOwnedExpr "v" element ++ ").collect()"

def selfField (f : FieldDecl) : String := "self." ++ fieldName f

def fieldSizeExpr (f : FieldDecl) : String :=
  if f.optional then
    "1 + " ++ selfField f ++ ".as_ref().map_or(0, |v| " ++ sizeExpr "v" f.type ++ ")"
  else sizeExpr (selfField f) f.type

def fieldEncodeExpr (f : FieldDecl) : String :=
  if f.optional then
    "bb.write_option(" ++ selfField f ++ ".as_ref(), |bb, v| " ++ encodeExpr "v" true f.type ++ ")"
  else encodeExpr (selfField f) false f.type

def fieldDecodeExpr (form : Form) (f : FieldDecl) : String :=
  let expr := decodeExpr form f.type
  if f.optional then "bb.read_option(ctx, |bb, ctx| " ++ expr ++ ")" else expr

def fieldToOwnedExpr (f : FieldDecl) : String :=
  if f.optional then selfField f ++ ".map(|v| " ++ toOwnedExpr "v" f.type ++ ")"
  else toOwnedExpr (selfField f) f.type

end SchemaWire.Codegen

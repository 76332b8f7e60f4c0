import SchemaWire.Document.Basic
import SchemaWire.Text.Naming

/-! The names that generated Rust code gives to structs and fields. -/
namespace SchemaWire.Codegen

def keywords : List String := [
  "as", "break", "const", "continue", "crate", "else", "enum", "extern", "false", "fn", "for",
  "if", "impl", "in", "let", "loop", "match", "mod", "move", "mut", "pub", "ref", "return",
  "self", "Self", "static", "struct", "super", "trait", "true", "type", "unsafe", "use",
  "where", "while", "async", "await", "dyn"]

/-- Names that a generated file defines, imports or relies on, and that no struct may take. -/
def takenNames : List String := [
  "AnyMessage", "Arena", "ArenaContext", "ArenaList", "ArenaRecord", "ArenaSlice", "ArenaStr",
  "ArrayView", "ByteBuffer", "ByteBufferMut", "DecodeContext", "DecodeIn", "DecodeRef",
  "FrameHeader", "Message", "Result", "WireError", "Option", "Some", "None", "Ok", "Err", "Vec",
  "String", "Box", "Clone", "Debug", "Default", "PartialEq"]

/-- A keyword gets an underscore behind it. -/
def escapeKeyword (name : String) : String := if keywords.contains name then name ++ "_" else name

def typeName (name : String) : String := escapeKeyword (Text.pascalCase name)

def fieldName (f : FieldDecl) : String := escapeKeyword (Text.snakeCase f.name)

/-- The three generated forms of a struct: with owned data, with data borrowed from the input, and
with data in an arena. -/
inductive Form where
  | owned
  | borrowed
  | stored
deriving DecidableEq, Repr

def Form.suffix : Form → String
  | .owned => ""
  | .borrowed => "Ref"
  | .stored => "In"

def formName (name : String) (form : Form) : String := typeName name ++ form.suffix

end SchemaWire.Codegen

import Std.Data.HashMap
import SchemaWire.Schema.Basic
import SchemaWire.Text.Case

/-!
Words that structs and fields must not be named by, because some ecosystem that a schema may be
compiled for reserves them. Ecosystems spell their words in any case; words are compared, and looked
up, in lowercase.
-/
namespace SchemaWire

structure Ecosystem where
  name : String
  spellings : List String

def Ecosystem.words (e : Ecosystem) : List String := e.spellings.map Text.lower

namespace Reserved

def go : Ecosystem where
  name := "Go"
  spellings := [
    "break", "default", "func", "interface", "select", "case", "defer", "go", "map", "struct",
    "chan", "else", "goto", "package", "switch", "const", "fallthrough", "if", "range", "type",
    "continue", "for", "import", "return", "var", "bool", "byte", "complex64", "complex128",
    "error", "float32", "float64", "int", "int8", "int16", "int32", "int64", "rune", "string",
    "uint", "uint8", "uint16", "uint32", "uint64", "uintptr", "true", "false", "iota", "nil",
    "append", "cap", "close", "complex", "copy", "delete", "imag", "len", "make", "new", "panic",
    "print", "println", "real", "recover", "main", "init"]

def rust : Ecosystem where
  name := "Rust"
  spellings := [
    "as", "break", "const", "continue", "crate", "else", "enum", "extern", "false", "fn", "for",
    "if", "impl", "in", "let", "loop", "match", "mod", "move", "mut", "pub", "ref", "return",
    "self", "Self", "static", "struct", "super", "trait", "true", "type", "unsafe", "use", "where",
    "while", "abstract", "async", "await", "become", "box", "do", "final", "macro", "override",
    "priv", "try", "typeof", "unsized", "virtual", "yield", "union", "dyn", "raw", "Option",
    "Result", "Some", "None", "Ok", "Err", "String", "Vec", "Box", "Rc", "Arc", "Copy", "Clone",
    "Send", "Sync", "Sized"]

def c : Ecosystem where
  name := "C"
  spellings := [
    "auto", "break", "case", "char", "const", "continue", "default", "do", "double", "else", "enum",
    "extern", "float", "for", "goto", "if", "inline", "int", "long", "register", "restrict",
    "return", "short", "signed", "sizeof", "static", "struct", "switch", "typedef", "union",
    "unsigned", "void", "volatile", "while", "_Alignas", "_Alignof", "_Atomic", "_Bool", "_Complex",
    "_Generic", "_Imaginary", "_Noreturn", "_Static_assert", "_Thread_local", "_BitInt",
    "_Decimal128", "_Decimal32", "_Decimal64", "bool", "true", "false", "NULL", "size_t",
    "ptrdiff_t", "wchar_t", "int8_t", "int16_t", "int32_t", "int64_t", "uint8_t", "uint16_t",
    "uint32_t", "uint64_t", "FILE", "EOF"]

def cpp : Ecosystem where
  name := "C++"
  spellings := [
    "alignas", "alignof", "and", "and_eq", "asm", "bitand", "bitor", "catch", "char8_t", "char16_t",
    "char32_t", "class", "compl", "concept", "consteval", "constexpr", "constinit", "const_cast",
    "co_await", "co_return", "co_yield", "decltype", "delete", "dynamic_cast", "explicit", "export",
    "friend", "mutable", "namespace", "new", "noexcept", "not", "not_eq", "nullptr", "operator",
    "or", "or_eq", "private", "protected", "public", "reinterpret_cast", "requires",
    "static_assert", "static_cast", "template", "this", "thread_local", "throw", "try", "typeid",
    "typename", "using", "virtual", "wchar_t", "xor", "xor_eq", "std", "string", "vector",
    "optional"]

def swift : Ecosystem where
  name := "Swift"
  spellings := [
    "associatedtype", "class", "deinit", "enum", "extension", "fileprivate", "func", "import",
    "init", "inout", "internal", "let", "open", "operator", "private", "precedencegroup",
    "protocol", "public", "rethrows", "static", "struct", "subscript", "typealias", "var", "break",
    "case", "catch", "continue", "default", "defer", "do", "else", "fallthrough", "for", "guard",
    "if", "in", "repeat", "return", "switch", "throw", "where", "while", "as", "false", "is", "nil",
    "self", "Self", "super", "throws", "true", "try", "async", "await", "didSet", "get", "set",
    "willSet", "weak", "unowned", "_", "Any", "Type", "Protocol", "available", "objc", "nonobjc",
    "discardableResult", "dynamicCallable", "dynamicMemberLookup", "escaping", "autoclosure",
    "convention", "IBAction", "IBOutlet", "IBDesignable", "IBInspectable", "NSCopying", "NSManaged",
    "UIApplicationMain", "NSApplicationMain", "testable", "warn_unqualified_access", "frozen",
    "unknown", "dynamic", "final", "lazy", "optional", "required", "convenience", "override",
    "mutating", "nonmutating", "Int", "Int8", "Int16", "Int32", "Int64", "UInt", "UInt8", "UInt16",
    "UInt32", "UInt64", "Float", "Double", "Bool", "String", "Character", "Array", "Dictionary",
    "Set", "Optional", "Error", "Result"]

/-- The ecosystems that reserve names, in the order diagnostics list them. -/
def ecosystems : List Ecosystem := [go, rust, c, cpp, swift]

/-- The built-in types, which a struct must not shadow. -/
def builtIn : Ecosystem := ⟨"schema", PrimitiveType.all.map (·.name)⟩

/-- The types that generated code imports, which a struct must not shadow. -/
def imported : Ecosystem where
  name := "runtime"
  spellings := [
    "ByteBuffer", "ByteBufferMut", "DecodeContext", "Limits", "Arena", "ArenaContext", "ArenaStr",
    "ArenaSlice", "ArenaList", "ArenaRecord", "ArrayView", "Message", "DecodeRef", "DecodeIn",
    "WireError", "AnyMessage", "FrameHeader"]

/-- Words in lowercase, each with those who reserve it. -/
abbrev Owners := Std.HashMap String (List String)

/-- Adds an owner of a word, behind the others and once. -/
def addOwner (owner : String) (owners : Owners) (word : String) : Owners :=
  let known := owners.getD word []
  if known.contains owner then owners else owners.insert word (known ++ [owner])

def enter (owners : Owners) (e : Ecosystem) : Owners := e.words.foldl (addOwner e.name) owners

@[irreducible] def owners : Owners := ecosystems.foldl enter ∅

@[irreducible] def structOwners : Owners := [builtIn, imported].foldl enter ∅

/-- Who reserves a word as a field name. -/
def forField (word : String) : List String := owners.getD (Text.lower word) []

/-- Who reserves a word as a struct name. -/
def forStruct (word : String) : List String :=
  forField word ++ structOwners.getD (Text.lower word) []

end Reserved
end SchemaWire

import SchemaWire.Document.Token

/-!
What can be wrong with a schema, and how it is reported: the rules that a document breaks, and the
errors of compiling, from reading the text to generating code.
-/
namespace SchemaWire

inductive NameProblem where
  | empty
  | badStart (c : Char)
  | badCharacter (c : Char)
deriving DecidableEq, Repr

def NameProblem.message : NameProblem → String
  | .empty => "cannot be empty"
  | .badStart c =>
    "must start with an ASCII letter or underscore, found " ++ Text.quote (String.singleton c)
  | .badCharacter c =>
    "contains invalid character " ++ Text.quote (String.singleton c) ++
      " (only ASCII letters, digits and underscores are allowed)"

inductive Violation where
  | emptySchema
  | emptyStruct (struct : String)
  | unknownType (struct field type : String)
  | invalidOptional (struct field : String) (type : TypeExpr)
  | invalidStructName (struct : String) (problem : NameProblem)
  | invalidFieldName (struct field : String) (problem : NameProblem)
  | reservedStructName (struct : String) (owners : List String)
  | reservedFieldName (struct field : String) (owners : List String)
  | duplicateStruct (struct : String)
  | duplicateField (struct field : String)
  /-- A cycle of references; the first name stands at the end again. -/
  | circularReference (path : List String)
deriving DecidableEq, Repr

namespace Violation

/-- The stable code of a violation. -/
def code : Violation → String
  | .emptySchema => "EMPTY_SCHEMA"
  | .emptyStruct _ => "EMPTY_STRUCT"
  | .unknownType .. => "UNKNOWN_TYPE"
  | .invalidOptional .. => "INVALID_OPTIONAL"
  | .invalidStructName .. | .invalidFieldName .. => "INVALID_IDENTIFIER"
  | .reservedStructName .. | .reservedFieldName .. => "RESERVED_KEYWORD"
  | .duplicateStruct _ => "DUPLICATE_STRUCT"
  | .duplicateField .. => "DUPLICATE_FIELD"
  | .circularReference _ => "CIRCULAR_REFERENCE"

def structLabel (struct : String) : String := "struct " ++ Text.quote struct

def message : Violation → String
  | .emptySchema => "schema must define at least one struct"
  | .emptyStruct struct =>
    structLabel struct ++ " cannot be empty (must have at least one field)"
  | .unknownType struct field type =>
    structLabel struct ++ " field " ++ Text.quote field ++ ": unknown type " ++ Text.quote type
  | .invalidOptional struct field type =>
    structLabel struct ++ " field " ++ Text.quote field ++
      ": only struct types can be optional, found " ++ Text.quote type.spelling
  | .invalidStructName struct problem =>
    "struct name " ++ Text.quote struct ++ " is invalid: " ++ problem.message
  | .invalidFieldName struct field problem =>
    structLabel struct ++ " field name " ++ Text.quote field ++ " is invalid: " ++ problem.message
  | .reservedStructName struct owners =>
    "struct name " ++ Text.quote struct ++ " is reserved in: " ++ String.intercalate ", " owners
  | .reservedFieldName struct field owners =>
    structLabel struct ++ " field name " ++ Text.quote field ++ " is reserved in: " ++
      String.intercalate ", " owners
  | .duplicateStruct struct => "duplicate struct name " ++ Text.quote struct
  | .duplicateField struct field =>
    structLabel struct ++ " has duplicate field name " ++ Text.quote field
  | .circularReference path =>
    "circular reference detected: " ++ String.intercalate " → " path

def report (v : Violation) : String := "[" ++ v.code ++ "] " ++ v.message

/-- All violations of a document, one to a line below a headline. -/
def summary (violations : List Violation) : String :=
  "Schema validation failed with " ++ toString violations.length ++ " error(s):" ++
    String.join (violations.map fun v => "\n  " ++ v.report)

end Violation

/-- Why a document cannot be turned into code or a resolved schema. -/
inductive GenerateError where
  | unknownType (name : String)
  | tooManyStructs (count : Nat)
  | typeNameTaken (previous owner name : String)
  | fieldNameTaken (struct previous field name : String)
deriving DecidableEq, Repr

def GenerateError.message : GenerateError → String
  | .unknownType name => "unknown type " ++ name
  | .tooManyStructs count => toString count ++ " structs do not fit in a 16-bit frame type id"
  | .typeNameTaken previous owner name =>
    previous ++ " and " ++ owner ++ " both generate the Rust name `" ++ name ++ "`"
  | .fieldNameTaken struct previous field name =>
    Violation.structLabel struct ++ ": fields " ++ Text.quote previous ++ " and " ++
      Text.quote field ++ " both generate the Rust name `" ++ name ++ "`"

inductive CompileError where
  | parse (error : ParseError)
  | invalid (violations : List Violation)
  | generate (error : GenerateError)
deriving DecidableEq, Repr

def CompileError.message : CompileError → String
  | .parse error => error.message
  | .invalid violations => Violation.summary violations
  | .generate error => "Code generation error: " ++ error.message

end SchemaWire

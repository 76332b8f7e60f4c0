import SchemaWire.Codegen.Expr
import SchemaWire.Text.Quoted

/-!
The pieces of a generated Rust file, as lists of lines: a header, six parts for every struct, and
the dispatch on frame type ids.
-/
namespace SchemaWire.Codegen

abbrev Lines := List String

def opening (line : String) : String := line ++ " \x7b"

/-- Doc comments, one line to a line of the text. -/
def docLines (indent : String) (doc : Option String) : Lines :=
  match doc with
  | some text =>
    (Text.lines text).map fun line =>
      if line.isEmpty then indent ++ "///" else indent ++ "/// " ++ line
  | none => []

def header (runtimePath : String) (d : Document) : Lines := [
  "// Code generated by bsdp. DO NOT EDIT.",
  "// " ++ toString d.structs.length ++ " structs; frame type ids follow declaration order.",
  "",
  "#![allow(unused_variables, unused_imports)]",
  "",
  "use " ++ runtimePath ++ "::\x7b",
  "    Arena, ArenaContext, ArenaList, ArenaRecord, ArenaSlice, ArenaStr, ArrayView, ByteBuffer,",
  "    ByteBufferMut, DecodeContext, DecodeIn, DecodeRef, FrameHeader, Message, Result, WireError,",
  "\x7d;",
  ""]

/-- One line for each field, behind its doc comments if `documented`. -/
def fieldLines (borrowing : List String) (form : Form) (documented : Bool) (f : FieldDecl) : Lines :=
  (if documented then docLines "    " f.doc else []) ++
    ["    pub " ++ fieldName f ++ ": " ++ fieldType borrowing form f ++ ","]

/-- The lifetime parameter of a struct's borrowed form, if it needs one. -/
def lifetime (borrowing : List String) (s : StructDecl) : String :=
  if borrowing.contains s.name then "<'a>" else ""

def types (borrowing : List String) (s : StructDecl) : Lines :=
  let name := typeName s.name
  docLines "" s.doc ++
  ["#[derive(Debug, Clone, PartialEq, Default)]", opening ("pub struct " ++ name)] ++
  s.fields.flatMap (fieldLines borrowing .owned true) ++
  ["\x7d", "",
    "/// Zero-copy view of [`" ++ name ++ "`].",
    "#[derive(Debug, Clone, PartialEq)]",
    opening ("pub struct " ++ name ++ "Ref" ++ lifetime borrowing s)] ++
  s.fields.flatMap (fieldLines borrowing .borrowed false) ++
  ["\x7d", "",
    "/// Arena-backed form of [`" ++ name ++ "`].",
    "#[derive(Debug, Clone, Copy, PartialEq)]",
    opening ("pub struct " ++ name ++ "In")] ++
  s.fields.flatMap (fieldLines borrowing .stored false) ++
  ["\x7d", ""]

def sizeCalculator (s : StructDecl) : Lines :=
  [opening "    fn encoded_size(&self) -> usize", "        let mut size = 0;"] ++
  s.fields.map (fun f => "        size += " ++ fieldSizeExpr f ++ ";") ++
  ["        size", "    \x7d"]

def encoder (s : StructDecl) : Lines :=
  [opening "    fn encode_to(&self, bb: &mut ByteBufferMut)"] ++
  s.fields.map (fun f => "        " ++ fieldEncodeExpr f ++ ";") ++
  ["    \x7d"]

/-- A struct expression that reads every field in a form. -/
def structLiteral (name : String) (form : Form) (s : StructDecl) : Lines :=
  [opening ("        Ok(" ++ name)] ++
  s.fields.map (fun f => "            " ++ fieldName f ++ ": " ++ fieldDecodeExpr form f ++ "?,") ++
  ["        \x7d)"]

def decoder (s : StructDecl) : Lines :=
  let name := typeName s.name
  [opening ("    fn decode_from(bb: &mut ByteBuffer, ctx: &mut DecodeContext) -> Result<" ++ name ++
    ">")] ++
  structLiteral name .owned s ++
  ["    \x7d"]

def borrowedDecoder (borrowing : List String) (s : StructDecl) : Lines :=
  let name := typeName s.name
  let target := name ++ "Ref" ++ lifetime borrowing s
  [opening ("impl<'a> DecodeRef<'a> for " ++ target),
    opening ("    fn decode_from(bb: &mut ByteBuffer<'a>, ctx: &mut DecodeContext) -> Result<" ++
      target ++ ">")] ++
  structLiteral (name ++ "Ref") .borrowed s ++
  ["    \x7d", "\x7d", "",
    opening ("impl" ++ lifetime borrowing s ++ " " ++ target),
    "    /// Copies borrowed data into an owned [`" ++ name ++ "`].",
    opening ("    pub fn into_owned(self) -> " ++ name),
    opening ("        " ++ name)] ++
  s.fields.map (fun f => "            " ++ fieldName f ++ ": " ++ fieldToOwnedExpr f ++ ",") ++
  ["        \x7d", "    \x7d", "\x7d", ""]

/-- The bytes of a field in a record: scalars stand inline, all else as a handle or record. -/
def recordSizeTerm (borrowing : List String) (f : FieldDecl) : String :=
  match fixed? f.type with
  | some t => toString t.size
  | none => "<" ++ fieldType borrowing .stored f ++ ">::RECORD_SIZE"

def writeRecordLine (f : FieldDecl) : String :=
  match fixed? f.type with
  | some _ => "        " ++ encodeExpr (selfField f) false f.type ++ ";"
  | none => "        " ++ selfField f ++ ".write_record(bb);"

def readRecordLine (borrowing : List String) (f : FieldDecl) : String :=
  let expr := match fixed? f.type with
    | some _ => decodeExpr .stored f.type
    | none => "<" ++ fieldType borrowing .stored f ++ ">::read_record(bb)"
  "            " ++ fieldName f ++ ": " ++ expr ++ "?,"

def arenaDecoder (borrowing : List String) (s : StructDecl) : Lines :=
  let name := typeName s.name ++ "In"
  [opening ("impl DecodeIn for " ++ name),
    opening ("    fn decode_in(bb: &mut ByteBuffer, ctx: &mut ArenaContext) -> Result<" ++ name ++
      ">")] ++
  structLiteral name .stored s ++
  ["    \x7d", "\x7d", "",
    opening ("impl ArenaRecord for " ++ name),
    "    const RECORD_SIZE: usize = " ++
      String.intercalate " + " (s.fields.map (recordSizeTerm borrowing)) ++ ";",
    "",
    opening "    fn write_record(&self, bb: &mut ByteBufferMut)"] ++
  s.fields.map writeRecordLine ++
  ["    \x7d", "",
    opening ("    fn read_record(bb: &mut ByteBuffer) -> Result<" ++ name ++ ">"),
    opening ("        Ok(" ++ name)] ++
  s.fields.map (readRecordLine borrowing) ++
  ["        \x7d)", "    \x7d", "\x7d", ""]

def dispatchLine (index : Nat) (name : String) : String :=
  "        " ++ toString (index + 1) ++ " => Ok(AnyMessage::" ++ name ++ "(" ++ name ++
    "::decode(payload)?)),"

/-- A type for any message, and the decoder that picks one by its frame type id. -/
def framing (d : Document) : Lines :=
  let names := d.structs.map fun s => typeName s.name
  ["/// Any message defined by this schema, tagged by frame type id.",
    "#[derive(Debug, Clone, PartialEq)]",
    opening "pub enum AnyMessage"] ++
  names.map (fun name => "    " ++ name ++ "(" ++ name ++ "),") ++
  ["\x7d", "",
    opening "impl AnyMessage",
    opening "    pub fn type_id(&self) -> u16",
    opening "        match self"] ++
  names.map (fun name =>
    "            AnyMessage::" ++ name ++ "(_) => " ++ name ++ "::TYPE_ID,") ++
  ["        \x7d", "    \x7d", "",
    opening "    pub fn encode_message(&self) -> Vec<u8>",
    opening "        match self"] ++
  names.map (fun name =>
    "            AnyMessage::" ++ name ++ "(message) => message.encode_message(),") ++
  ["        \x7d", "    \x7d", "\x7d", "",
    "/// Decodes a framed message of any type in this schema.",
    opening "pub fn decode_message(bytes: &[u8]) -> Result<AnyMessage>",
    "    let (header, payload) = FrameHeader::parse(bytes)?;",
    opening "    match header.type_id"] ++
  names.mapIdx dispatchLine ++
  ["        other => Err(WireError::UnknownTypeId(other)),", "    \x7d", "\x7d"]

end SchemaWire.Codegen

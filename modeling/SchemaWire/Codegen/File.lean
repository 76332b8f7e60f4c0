import SchemaWire.Codegen.Collisions
import SchemaWire.Codegen.Parts
import SchemaWire.Document.Compile

/-! Whole generated files. -/
namespace SchemaWire.Codegen

structure Options where
  /-- Where the generated file imports the runtime from. -/
  runtimePath : String := "brine_sdp::wire"
  fileName : String := "generated.rs"

structure SourceFile where
  path : String
  contents : String
deriving DecidableEq, Repr

structure StructParts where
  types : Lines
  sizeCalculator : Lines
  encoder : Lines
  decoder : Lines
  borrowedDecoder : Lines
  arenaDecoder : Lines

def partsOf (borrowing : List String) (s : StructDecl) : StructParts where
  types := types borrowing s
  sizeCalculator := sizeCalculator s
  encoder := encoder s
  decoder := decoder s
  borrowedDecoder := borrowedDecoder borrowing s
  arenaDecoder := arenaDecoder borrowing s

def StructParts.concat (parts : StructParts) : Lines :=
  parts.types ++ parts.sizeCalculator ++ parts.encoder ++ parts.decoder ++
    parts.borrowedDecoder ++ parts.arenaDecoder

/-- The parts of a struct put together, its methods inside their implementation block. -/
def assemble (s : StructDecl) (typeId : UInt16) (parts : StructParts) : Lines :=
  parts.types ++
  [opening ("impl Message for " ++ typeName s.name),
    "    const TYPE_ID: u16 = " ++ toString typeId.toNat ++ ";",
    "    const NAME: &'static str = " ++ Text.quote s.name ++ ";",
    ""] ++
  parts.sizeCalculator ++ [""] ++ parts.encoder ++ [""] ++ parts.decoder ++ ["\x7d", ""] ++
  parts.borrowedDecoder ++ parts.arenaDecoder

/-- The file of a document, given how the parts of a struct are put together. -/
def fileWith (assemble : StructDecl → UInt16 → StructParts → Lines) (options : Options)
    (d : Document) : SourceFile :=
  let borrowing := borrowingStructs d
  let structs := d.structs.mapIdx fun index s =>
    Text.unlines (assemble s (Schema.typeIdAt index) (partsOf borrowing s))
  { path := options.fileName
    contents :=
      Text.unlines (header options.runtimePath d) ++ String.join structs ++
        Text.unlines (framing d) }

/-- The file of a document that was not checked at all, its parts merely concatenated. -/
def plainFile (options : Options) (d : Document) : SourceFile :=
  fileWith (fun _ _ parts => parts.concat) options d

/-- The file of a document whose names do not collide. -/
def file (options : Options) (d : Document) : Except GenerateError SourceFile := do
  check d
  return fileWith assemble options d

def generate (d : Document) : Except CompileError SourceFile := do
  d.verify
  (file {} d).mapError .generate

end SchemaWire.Codegen

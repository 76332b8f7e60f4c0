import SchemaWire.Text.Quoted

/-!
What can go wrong while encoding or decoding, and how it is reported. The limits bind decoders only;
encoders trust their caller.
-/
namespace SchemaWire

/-- The largest payload a top-level decode accepts, 128 MiB. -/
def maxSerializedSize : Nat := 134217728

def maxArrayElements : Nat := 1000000

/-- The largest number of array elements in one message, summed over all its arrays. -/
def maxTotalElements : Nat := 10000000

/-- Byte positions are 64-bit words. -/
def maxPosition : Nat := 18446744073709551615

/-- How a dynamic value fails to fit its schema. -/
inductive Mismatch where
  | noStruct (index : Nat)
  | unknownStruct (name : String)
  | notAnObject
  | wrongKind (expected found : String)
  | wrongStruct (expected found : String)
  | extraField (struct field : String)
  | missingField (struct field : String)
deriving DecidableEq, Repr

def Mismatch.message : Mismatch → String
  | .noStruct index => s!"no struct at index {index}"
  | .unknownStruct name => s!"unknown struct {name}"
  | .notAnObject => "top-level value is not an object"
  | .wrongKind expected found => s!"expected {expected}, found {found}"
  | .wrongStruct expected found => s!"expected a {expected} object, found {found}"
  | .extraField struct field => s!"{struct} has no field named {field}"
  | .missingField struct field => s!"{struct}.{field} is required"

inductive WireError where
  | unexpectedEnd (needed available : Nat)
  | invalidUtf8
  | dataTooLarge (size : Nat)
  | arrayTooLarge (count : Nat)
  | tooManyElements (total : Nat)
  | invalidBool (byte : UInt8)
  | invalidMagic (bytes : List UInt8)
  | unsupportedVersion (version : UInt8)
  | unknownTypeId (id : UInt16)
  | typeIdMismatch (expected found : UInt16)
  | bufferTooSmall (needed available : Nat)
  | staleHandle
  | schemaMismatch (reason : Mismatch)
  /-- Struct references lead back to the same struct without reading a byte. -/
  | endlessSchema
deriving DecidableEq, Repr

def hexByte (byte : UInt8) : String := "0x" ++ String.ofList (Text.paddedHex 2 byte.toNat)

def WireError.message : WireError → String
  | .unexpectedEnd needed available =>
    s!"Unexpected end of input: needed {needed} bytes, {available} available"
  | .invalidUtf8 => "Invalid UTF-8 in string field"
  | .dataTooLarge size => s!"Serialized size {size} exceeds the {maxSerializedSize} byte limit"
  | .arrayTooLarge count =>
    s!"Array count {count} exceeds the per-array limit of {maxArrayElements}"
  | .tooManyElements total =>
    s!"Total array elements {total} exceed the per-message limit of {maxTotalElements}"
  | .invalidBool byte => "Invalid boolean byte " ++ hexByte byte ++ " (expected 0 or 1)"
  | .invalidMagic bytes =>
    "Invalid magic bytes [" ++ String.intercalate ", " (bytes.map fun b => toString b.toNat) ++
      "] (expected \"SDP\")"
  | .unsupportedVersion version => "Unsupported protocol version " ++ hexByte version
  | .unknownTypeId id => "Unknown message type id " ++ toString id.toNat
  | .typeIdMismatch expected found =>
    "Message type id " ++ toString found.toNat ++ " does not match expected type id " ++
      toString expected.toNat
  | .bufferTooSmall needed available =>
    s!"Output buffer too small: needed {needed} bytes, {available} available"
  | .staleHandle => "Arena handle refers to memory released by a reset"
  | .schemaMismatch reason => "Value does not match schema: " ++ reason.message
  | .endlessSchema => "Schema contains itself without end"

/-- Payloads above the size limit are refused before anything is read. -/
def checkSerializedSize (size : Nat) : Except WireError Unit :=
  if maxSerializedSize < size then .error (.dataTooLarge size) else .ok ()

end SchemaWire

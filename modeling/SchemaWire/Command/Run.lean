import SchemaWire.Codegen.File
import SchemaWire.Command.Arguments
import SchemaWire.Command.Files
import SchemaWire.Value.Decode

/-! Running a command over files. -/
namespace SchemaWire

inductive CommandError where
  | file (fault : FileFault)
  | compile (error : CompileError)
  | wire (error : WireError)
deriving DecidableEq, Repr

def CommandError.message : CommandError → String
  | .file fault => "I/O error: " ++ fault.message
  | .compile error => error.message
  | .wire error => error.message

namespace Command

variable {m : Type → Type} [Monad m]

def readFile (files : Files m) (path : String) : ExceptT CommandError m Bytes :=
  ExceptT.mk do return (← files.read path).mapError .file

def readText (files : Files m) (path : String) : ExceptT CommandError m String := do
  match textOfBytes? (← readFile files path) with
  | some text => return text
  | none => throw (.file .notText)

def writeText (files : Files m) (path text : String) : ExceptT CommandError m Unit :=
  ExceptT.mk do return (← files.write path (bytesOfText text)).mapError .file

def compiled {α : Type} (result : Except CompileError α) : ExceptT CommandError m α :=
  ExceptT.mk (pure (result.mapError .compile))

/-- Runs a command. The result is what it prints if it succeeds. -/
def run (files : Files m) : Command → ExceptT CommandError m String
  | .check schema => do
    let d ← compiled (Document.compile (← readText files schema))
    return schema ++ ": ok (" ++ toString d.structs.length ++ " structs)\n"
  | .ast schema => do
    let d ← compiled (Document.parse (← readText files schema))
    return d.toJson.pretty ++ "\n"
  | .gen schema output => do
    let d ← compiled (Document.compile (← readText files schema))
    let file ← compiled (Codegen.generate d)
    match output with
    | some path =>
      writeText files path file.contents
      return "Generated " ++ schema ++ " → " ++ path ++ "\n"
    | none => return file.contents
  | .decode schema message => do
    let d ← compiled (Document.compile (← readText files schema))
    let resolved ← compiled d.toSchema
    let raw ← readFile files message
    match Value.decodeMessage resolved raw with
    | .ok v => return v.toJson.pretty ++ "\n"
    | .error error => throw (.wire error)

end Command
end SchemaWire

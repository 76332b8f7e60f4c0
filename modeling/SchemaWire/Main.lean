import SchemaWire.Command.Run

/-! The command line: files on disk, output, and exit codes. -/
namespace SchemaWire

/-- What the system reports, as a fault of a file. -/
def FileFault.ofError : IO.Error → FileFault
  | .noFileOrDirectory .. => .missing
  | .inappropriateType _ 20 _ => .notDirectory
  | .inappropriateType _ 21 _ => .isDirectory
  | .invalidArgument _ 36 _ => .tooLong
  | error => .other (toString error)

def Files.disk : Files IO where
  read path := do
    try return .ok (← IO.FS.readBinFile path).data.toList
    catch error => return .error (.ofError error)
  write path contents := do
    try
      IO.FS.writeBinFile path ⟨contents.toArray⟩
      return .ok ()
    catch error => return .error (.ofError error)

def usage : String :=
  "Usage: bsdp [-v] check <SCHEMA>\n" ++
  "       bsdp [-v] ast <SCHEMA>\n" ++
  "       bsdp [-v] gen <SCHEMA> [-o <OUTPUT>]\n" ++
  "       bsdp [-v] decode <SCHEMA> <MESSAGE>\n"

end SchemaWire

open SchemaWire in
/-- Exits with 0 on success, 1 if the command fails and 2 if there is no command. -/
def main (arguments : List String) : IO UInt32 := do
  match Invocation.ofArguments? arguments with
  | none =>
    IO.eprint usage
    return 2
  | some invocation =>
    let command := invocation.command
    if 0 < invocation.verbosity then
      IO.eprintln ("INFO running command=" ++ command.name ++ " schema=" ++ command.schema)
    match ← (command.run Files.disk).run with
    | .ok output =>
      IO.print output
      return 0
    | .error error =>
      IO.eprintln error.message
      return 1

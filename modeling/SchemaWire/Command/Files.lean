import SchemaWire.Wire.Scalar

/-! The files a command works on: how they are reached, and a directory of files in memory. -/
namespace SchemaWire

inductive FileFault where
  | missing
  | notDirectory
  | isDirectory
  | tooLong
  | notText
  | other (reason : String)
deriving DecidableEq, Repr

def FileFault.message : FileFault → String
  | .missing => "No such file or directory (os error 2)"
  | .notDirectory => "Not a directory (os error 20)"
  | .isDirectory => "Is a directory (os error 21)"
  | .tooLong => "File name too long (os error 36)"
  | .notText => "stream did not contain valid UTF-8"
  | .other reason => reason

/-- Reading and writing whole files by their paths. -/
structure Files (m : Type → Type) where
  read : (path : String) → m (Except FileFault Bytes)
  write : (path : String) → Bytes → m (Except FileFault Unit)

/-- A directory without directories in it. -/
structure Directory where
  entries : List (String × Bytes)

namespace Directory

def get? (d : Directory) (name : String) : Option Bytes := d.entries.lookup name

def contains (d : Directory) (name : String) : Bool := (d.get? name).isSome

/-- Puts a file in the place of the one with its name, or behind all others. -/
def put (d : Directory) (name : String) (contents : Bytes) : Directory :=
  if d.contains name then
    ⟨d.entries.map fun entry => if entry.1 == name then (name, contents) else entry⟩
  else ⟨d.entries ++ [(name, contents)]⟩

def maxPathSize : Nat := 4095

def maxNameSize : Nat := 255

/-- What a path leads to. Of the directories around this one nothing is known but that they are
there; `here` is false in them. -/
inductive Place where
  | directory (here : Bool)
  | file (name : String)
  /-- Nothing yet, where a file can be made. -/
  | vacant (here : Bool) (name : String)
deriving DecidableEq, Repr

/-- Takes one step of a path. Only a directory can be stepped into, be it to stay there. -/
def step (d : Directory) : Place → String → Except FileFault Place
  | .file _, _ => .error .notDirectory
  | .vacant _ _, _ => .error .missing
  | .directory here, "" | .directory here, "." => .ok (.directory here)
  | .directory _, ".." => .ok (.directory false)
  | .directory here, name =>
    if maxNameSize < name.utf8ByteSize then .error .tooLong
    else if here && d.contains name then .ok (.file name)
    else .ok (.vacant here name)

/-- Follows the steps of a path. A blank first step is that of a path from the root. -/
def walk (d : Directory) (steps : List String) : Except FileFault Place :=
  steps.foldlM d.step (.directory (steps.head? != some ""))

/-- The steps of a path, which is neither empty nor too long. -/
def steps (path : String) : Except FileFault (List String) :=
  if path.isEmpty then .error .missing
  else if maxPathSize < path.utf8ByteSize then .error .tooLong
  else .ok (path.splitOn "/")

def read (d : Directory) (path : String) : Except FileFault Bytes := do
  match ← d.walk (← steps path) with
  | .directory _ => throw .isDirectory
  | .vacant _ _ => throw .missing
  | .file name =>
    match d.get? name with
    | some contents => return contents
    | none => throw .missing

/-- The steps to where a file is written. A slash at the end asks for a directory, and no file is
made under a directory's name: the step before it is not taken. -/
def writeSteps (steps : List String) : List String :=
  match steps.reverse with
  | "" :: rest => ("." :: (rest.dropWhile (· == "")).drop 1).reverse
  | _ => steps

def write (d : Directory) (path : String) (contents : Bytes) : Except FileFault Directory := do
  match ← d.walk (writeSteps (← steps path)) with
  | .directory _ => throw .isDirectory
  | .file name | .vacant true name => return d.put name contents
  | .vacant false _ => return d

def files : Files (StateM Directory) where
  read path := do return (← get).read path
  write path contents := do
    match (← get).write path contents with
    | .ok after =>
      set after
      return .ok ()
    | .error fault => return .error fault

end Directory
end SchemaWire

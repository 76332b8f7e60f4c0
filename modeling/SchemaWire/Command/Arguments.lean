/-! The commands of the program and how they are written on the command line. -/
namespace SchemaWire

inductive Command where
  | check (schema : String)
  /-- Show what a schema text declares, valid or not. -/
  | ast (schema : String)
  | gen (schema : String) (output : Option String)
  | decode (schema message : String)
deriving DecidableEq, Repr

/-- A command with the number of times that more log output was asked for. -/
structure Invocation where
  verbosity : Nat
  command : Command
deriving DecidableEq, Repr

namespace Command

def name : Command → String
  | .check _ => "check"
  | .ast _ => "ast"
  | .gen _ _ => "gen"
  | .decode _ _ => "decode"

def schema : Command → String
  | .check schema | .ast schema | .gen schema _ | .decode schema _ => schema

/-- What was said behind the name of a command, operands latest first. -/
structure Gathered where
  verbosity : Nat
  output : Option String := none
  operands : List String := []

/-- Sets the output, which can be done once and to a path that is not empty. -/
def Gathered.setOutput (value : String) (g : Gathered) : Option Gathered :=
  if g.output.isSome || value.isEmpty then none else some { g with output := some value }

/-- Single-letter options written together. `v` counts; `o` takes what follows it, behind an equals
sign or not, as its value. The result says whether `o` came last and its value is still to come. -/
def letters (takesOutput : Bool) : List Char → Gathered → Option (Gathered × Bool)
  | [], g => some (g, false)
  | 'v' :: rest, g => letters takesOutput rest { g with verbosity := g.verbosity + 1 }
  | 'o' :: rest, g =>
    if !takesOutput then none
    else match rest with
      | [] => some (g, true)
      | '=' :: value => (g.setOutput (String.ofList value)).map (·, false)
      | value => (g.setOutput (String.ofList value)).map (·, false)
  | _, _ => none

def longOption (takesOutput : Bool) (body : List Char) (g : Gathered) : Option (Gathered × Bool) :=
  if body == "verbose".toList then some ({ g with verbosity := g.verbosity + 1 }, false)
  else if !takesOutput then none
  else if body == "output".toList then some (g, true)
  else if "output=".toList.isPrefixOf body then
    (g.setOutput (String.ofList (body.drop "output=".length))).map (·, false)
  else none

/-- Reads one word. A lone dash is an operand like any other. -/
def word (takesOutput : Bool) (w : String) (g : Gathered) : Option (Gathered × Bool) :=
  match w.toList with
  | [] => none
  | '-' :: '-' :: body => longOption takesOutput body g
  | '-' :: c :: rest => letters takesOutput (c :: rest) g
  | _ => some ({ g with operands := w :: g.operands }, false)

/-- A word can be the value of the option before it. -/
def isValue (w : String) : Bool :=
  match w.toList with
  | '-' :: _ :: _ => false
  | _ => true

/-- Reads the words behind the name of a command; `awaiting` says that the output's value comes
next. Behind two dashes all words are operands. -/
def gather (takesOutput : Bool) : (awaiting : Bool) → List String → Gathered → Option Gathered
  | true, [], _ => none
  | true, w :: rest, g => do
    if !isValue w then none
    gather takesOutput false rest (← g.setOutput w)
  | false, [], g => some g
  | false, w :: rest, g =>
    if w == "--" then
      if rest.contains "" then none else some { g with operands := rest.reverse ++ g.operands }
    else do
      let (g, awaiting) ← word takesOutput w g
      gather takesOutput awaiting rest g

def ofName? (name : String) (g : Gathered) : Option Command :=
  match name, g.operands.reverse with
  | "check", [schema] => some (.check schema)
  | "ast", [schema] => some (.ast schema)
  | "gen", [schema] => some (.gen schema g.output)
  | "decode", [schema, message] => some (.decode schema message)
  | _, _ => none

end Command

/-- Reads a command line. Log options may stand before the command's name. -/
def Invocation.ofWords? (verbosity : Nat) : List String → Option Invocation
  | [] => none
  | w :: rest => do
    let (g, _) ← if w == "--" then none else Command.word false w ⟨verbosity, none, []⟩
    if g.operands.isEmpty then ofWords? g.verbosity rest
    else
      let g ← Command.gather (w == "gen") false rest ⟨verbosity, none, []⟩
      return ⟨g.verbosity, ← Command.ofName? w g⟩

def Invocation.ofArguments? (arguments : List String) : Option Invocation := ofWords? 0 arguments

end SchemaWire

import SchemaWire.Text.Visible

/-! Texts as output shows them: between double quotes, in two spellings, and by lines. -/
namespace SchemaWire.Text

def hexDigits (n : Nat) : List Char := Nat.toDigits 16 n

def paddedHex (width n : Nat) : List Char :=
  let digits := hexDigits n
  List.replicate (width - digits.length) '0' ++ digits

/-- How a character is written inside a JSON string: only quotes, backslashes and control
characters need an escape. -/
def jsonEscape (c : Char) : List Char :=
  if c == '"' then ['\\', '"']
  else if c == '\\' then ['\\', '\\']
  else if c == '\n' then ['\\', 'n']
  else if c == '\r' then ['\\', 'r']
  else if c == '\t' then ['\\', 't']
  else if c.toNat == 0x08 then ['\\', 'b']
  else if c.toNat == 0x0C then ['\\', 'f']
  else if c.toNat < 0x20 then '\\' :: 'u' :: paddedHex 4 c.toNat
  else [c]

/-- How a character is written in a readable dump: what has no shape of its own is spelt out. -/
def dumpEscape (c : Char) : List Char :=
  if c == '"' then ['\\', '"']
  else if c == '\\' then ['\\', '\\']
  else if c == '\n' then ['\\', 'n']
  else if c == '\r' then ['\\', 'r']
  else if c == '\t' then ['\\', 't']
  else if c.toNat == 0 then ['\\', '0']
  else if isVisible c then [c]
  else ['\\', 'u', '\x7b'] ++ hexDigits c.toNat ++ ['\x7d']

/-- A text between quotes, each character written by `escape`. -/
def quoteWith (escape : Char → List Char) (s : String) : String :=
  String.ofList ('"' :: (s.toList.flatMap escape ++ ['"']))

/-- A JSON string. -/
def quote (s : String) : String := quoteWith jsonEscape s

def dumpQuote (s : String) : String := quoteWith dumpEscape s

/-- Cuts a text behind each newline. A line loses its newline and a carriage return before it; what
stands behind the last newline is a line if it is not empty. -/
def linesAfter (line : List Char) : List Char → List String
  | [] => if line.isEmpty then [] else [String.ofList line.reverse]
  | '\n' :: rest =>
    let ended := match line with
      | '\r' :: before => before
      | other => other
    String.ofList ended.reverse :: linesAfter [] rest
  | c :: rest => linesAfter (c :: line) rest

def lines (s : String) : List String := linesAfter [] s.toList

/-- Lines as one text, each ended by a newline. -/
def unlines (lines : List String) : String :=
  lines.foldl (fun text line => text ++ line ++ "\n") ""

end SchemaWire.Text

import SchemaWire.Text.Quoted

/-! JSON documents and their two layouts, compact and indented. -/
namespace SchemaWire

/-- A JSON document. Objects keep their order and may repeat a key. -/
inductive Json where
  /-- A number, `true`, `false` or `null`, by its spelling. -/
  | literal (spelling : String)
  | string (s : String)
  | array (items : List Json)
  | object (members : List (String × Json))

namespace Json

def nat (n : Nat) : Json := .literal (toString n)

def bool (b : Bool) : Json := .literal (if b then "true" else "false")

mutual

/-- The document on one line, without blanks. -/
def compact : Json → String
  | .literal spelling => spelling
  | .string s => Text.quote s
  | .array items => "[" ++ String.intercalate "," (compactItems items) ++ "]"
  | .object members => "\x7b" ++ String.intercalate "," (compactMembers members) ++ "\x7d"

def compactItems : List Json → List String
  | [] => []
  | item :: rest => compact item :: compactItems rest

def compactMembers : List (String × Json) → List String
  | [] => []
  | (key, item) :: rest => (Text.quote key ++ ":" ++ compact item) :: compactMembers rest

end

/-- A line break and the indentation of a nesting depth, two blanks a level. -/
def newline (depth : Nat) : String := "\n" ++ String.ofList (List.replicate (2 * depth) ' ')

/-- Entries one to a line between brackets; nothing stands between brackets without entries. -/
def enclose (depth : Nat) (opening closing : String) (entries : List String) : String :=
  if entries.isEmpty then opening ++ closing
  else
    opening ++ newline (depth + 1) ++ String.intercalate ("," ++ newline (depth + 1)) entries ++
      newline depth ++ closing

mutual

/-- The document with one entry to a line, at the given nesting depth. -/
def indented (depth : Nat) : Json → String
  | .literal spelling => spelling
  | .string s => Text.quote s
  | .array items => enclose depth "[" "]" (indentedItems (depth + 1) items)
  | .object members => enclose depth "\x7b" "\x7d" (indentedMembers (depth + 1) members)

def indentedItems (depth : Nat) : List Json → List String
  | [] => []
  | item :: rest => indented depth item :: indentedItems depth rest

def indentedMembers (depth : Nat) : List (String × Json) → List String
  | [] => []
  | (key, item) :: rest =>
    (Text.quote key ++ ": " ++ indented depth item) :: indentedMembers depth rest

end

def pretty (j : Json) : String := indented 0 j

end Json
end SchemaWire

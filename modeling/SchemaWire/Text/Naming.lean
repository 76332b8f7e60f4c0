import SchemaWire.Text.Case

/-! Names in the two conventions of generated code. -/
namespace SchemaWire.Text

/-- A word with its first character in uppercase; the others in lowercase if asked. -/
def capitalize (lowerRest : Bool) (word : String) : String :=
  match word.toList with
  | [] => ""
  | c :: rest =>
    let tail := String.ofList rest
    String.ofList (upperChar c) ++ (if lowerRest then lower tail else tail)

/-- The pieces of a text between underscores, empty ones included. -/
def splitWords : List Char → List (List Char)
  | [] => [[]]
  | c :: rest =>
    if c == '_' then [] :: splitWords rest
    else
      match splitWords rest with
      | word :: words => (c :: word) :: words
      | [] => [[c]]

/-- Words run together, each capitalized. A name of several words, or one all in uppercase, is
lowercased after its first characters; any other name keeps its spelling from the second on. -/
def pascalCase (s : String) : String :=
  if s.toList.contains '_' then
    let words := (splitWords s.toList).filter (!·.isEmpty)
    String.join (words.map fun word => capitalize true (String.ofList word))
  else capitalize (s == upper s) s

/-- An underscore separates a capital from the character before it, unless one is there already or
both belong to a run of capitals; the last capital of a run starts a word of its own when a small
letter follows. -/
def startsWord (before : Option Char) (after : List Char) : Bool :=
  match before with
  | none => false
  | some prev =>
    prev != '_' && (!isUppercase prev ||
      match after with
      | next :: _ => isLowercase next
      | [] => false)

/-- Lowercases capitals and separates words, for the characters behind `before`. -/
def snakeAfter (before : Option Char) : List Char → List Char
  | [] => []
  | c :: rest =>
    let here :=
      if isUppercase c then
        if startsWord before rest then '_' :: lowerChar c else lowerChar c
      else [c]
    here ++ snakeAfter (some c) rest

def snakeCase (s : String) : String := String.ofList (snakeAfter none s.toList)

end SchemaWire.Text

import SchemaWire.Document.Basic
import SchemaWire.Text.WordChar

/-!
Tokens of schema text. A text is cut into lexemes from left to right; blanks and ordinary comments
are dropped, every other lexeme is a token, and the last token marks the end.
-/
namespace SchemaWire

inductive TokenKind where
  | ident
  | struct
  | openBrace
  | closeBrace
  | openBracket
  | closeBracket
  | colon
  | comma
  | question
  | doc
  | eof
deriving DecidableEq, Repr

structure Token where
  kind : TokenKind
  text : String
  position : Position
deriving DecidableEq, Repr

def Token.describe (t : Token) : String :=
  match t.kind with
  | .eof => "end of input"
  | .doc => "doc comment"
  | _ => Text.quote t.text

/-- What the grammar asks for at some point. -/
inductive Expected where
  | structKeyword
  | structName
  | openBrace
  | fieldName
  | colon
  | type
  | closeBracket
  | commaOrBrace
deriving DecidableEq, Repr

def Expected.spelling : Expected → String
  | .structKeyword => "\"struct\""
  | .structName => "struct name"
  | .openBrace => "\"\x7b\""
  | .fieldName => "field name"
  | .colon => "\":\""
  | .type => "type"
  | .closeBracket => "\"]\""
  | .commaOrBrace => "\",\" or \"\x7d\""

/-- Why a text is no schema. -/
inductive SyntaxFault where
  | unexpectedCharacter (c : Char)
  | unexpectedToken (expected : Expected) (found : Token)
  | docWithoutStruct
  | docWithoutField
deriving DecidableEq, Repr

def SyntaxFault.message : SyntaxFault → String
  | .unexpectedCharacter c => "Unexpected character " ++ Text.quote (String.singleton c)
  | .unexpectedToken expected found =>
    "Expected " ++ expected.spelling ++ " but found " ++ found.describe
  | .docWithoutStruct => "Doc comment must be followed by a struct"
  | .docWithoutField => "Doc comment must be followed by a field"

structure ParseError where
  fault : SyntaxFault
  position : Position
deriving DecidableEq, Repr

def ParseError.message (e : ParseError) : String :=
  "Parse error at line " ++ toString e.position.line ++ ", column " ++
    toString e.position.column ++ ": " ++ e.fault.message

def Position.step (p : Position) (c : Char) : Position :=
  if c == '\n' then ⟨p.line + 1, 1⟩ else ⟨p.line, p.column + 1⟩

def Position.after (p : Position) (cs : List Char) : Position := cs.foldl Position.step p

namespace Token

/-- The kind of a one-character token. -/
def markKind? (c : Char) : Option TokenKind :=
  if c == '\x7b' then some .openBrace
  else if c == '\x7d' then some .closeBrace
  else if c == '[' then some .openBracket
  else if c == ']' then some .closeBracket
  else if c == ':' then some .colon
  else if c == ',' then some .comma
  else if c == '?' then some .question
  else none

/-- Cuts the first lexeme off a text: a comment to the end of its line, a longest run of word
characters, a mark, or a longest run of blanks. -/
def lexeme? : List Char → Option (List Char × List Char)
  | [] => none
  | '/' :: '/' :: rest => some ('/' :: '/' :: rest.takeWhile (· != '\n'), rest.dropWhile (· != '\n'))
  | c :: rest =>
    if Text.isWordChar c then some (c :: rest.takeWhile Text.isWordChar, rest.dropWhile Text.isWordChar)
    else if (markKind? c).isSome then some ([c], rest)
    else if Text.isBlank c then some (c :: rest.takeWhile Text.isBlank, rest.dropWhile Text.isBlank)
    else none

/-- The text of a doc comment: without carriage returns at its end and one blank at its start. -/
def docText (body : List Char) : String :=
  let trimmed := (body.reverse.dropWhile (· == '\r')).reverse
  String.ofList (match trimmed with
    | ' ' :: rest => rest
    | other => other)

/-- The token of a lexeme; blanks and ordinary comments have none. -/
def ofLexeme? (position : Position) : List Char → Option Token
  | '/' :: '/' :: '/' :: body => some ⟨.doc, docText body, position⟩
  | '/' :: '/' :: _ => none
  | lexeme@(c :: _) =>
    let text := String.ofList lexeme
    match markKind? c with
    | some kind => some ⟨kind, text, position⟩
    | none =>
      if Text.isBlank c then none
      else if text == "struct" then some ⟨.struct, text, position⟩
      else some ⟨.ident, text, position⟩
  | [] => none

theorem lexeme?_length {cs lexeme rest : List Char} (h : lexeme? cs = some (lexeme, rest)) :
    rest.length < cs.length := by
  have shorter (p : Char → Bool) (l : List Char) : (l.dropWhile p).length ≤ l.length :=
    (List.dropWhile_sublist p).length_le
  unfold lexeme? at h
  split at h
  · exact nomatch h
  · obtain ⟨-, rfl⟩ := Prod.mk.inj (Option.some.inj h)
    exact Nat.lt_succ_of_lt (Nat.lt_succ_of_le (shorter _ _))
  · split at h
    · obtain ⟨-, rfl⟩ := Prod.mk.inj (Option.some.inj h)
      exact Nat.lt_succ_of_le (shorter _ _)
    · split at h
      · obtain ⟨-, rfl⟩ := Prod.mk.inj (Option.some.inj h)
        exact Nat.lt_succ_self _
      · split at h
        · obtain ⟨-, rfl⟩ := Prod.mk.inj (Option.some.inj h)
          exact Nat.lt_succ_of_le (shorter _ _)
        · exact nomatch h

/-- The tokens of a text that starts at the given place. -/
def scanFrom (position : Position) (cs : List Char) : Except ParseError (List Token) :=
  match _h : lexeme? cs with
  | some (lexeme, rest) => do
    let tokens ← scanFrom (position.after lexeme) rest
    match ofLexeme? position lexeme with
    | some token => return token :: tokens
    | none => return tokens
  | none =>
    match cs with
    | [] => .ok [⟨.eof, "", position⟩]
    | c :: _ => .error ⟨.unexpectedCharacter c, position⟩
termination_by cs.length
decreasing_by exact lexeme?_length _h

def scan (text : String) : Except ParseError (List Token) := scanFrom ⟨1, 1⟩ text.toList

end Token
end SchemaWire

import SchemaWire.Text.CaseTables

/-! Full case conversion, of single characters and of whole texts. -/
namespace SchemaWire.Text

def isUppercase (c : Char) : Bool :=
  if c.toNat < 128 then c.isUpper else uppercaseSteps.contains c.toNat

def isLowercase (c : Char) : Bool :=
  if c.toNat < 128 then c.isLower else lowercaseSteps.contains c.toNat

/-- A letter of any case, titlecase included. -/
def isCased (c : Char) : Bool :=
  isUppercase c || isLowercase c || titlecaseRanges.contains c.toNat

/-- A character that words see through when they look for their last letter. -/
def isCaseIgnorable (c : Char) : Bool :=
  if c.toNat < 128 then c == '\'' || c == '.' || c == ':' || c == '^' || c.toNat == 0x60
  else caseIgnorableRanges.contains c.toNat

/-- The lowercase form of one character, out of context. -/
def lowerChar (c : Char) : List Char :=
  if c.toNat < 128 then [c.toLower]
  else if c.toNat == 0x130 then ['i', Char.ofNat 0x307]
  else [Char.ofNat (lowerShifts.apply c.toNat)]

def upperChar (c : Char) : List Char :=
  if c.toNat < 128 then [c.toUpper]
  else match upperExpansions.lookup c.toNat with
    | some expansion => expansion.map Char.ofNat
    | none => [Char.ofNat (upperShifts.apply c.toNat)]

/-- The first character that is not ignorable has a case. -/
def startsCased (cs : List Char) : Bool :=
  match cs.dropWhile isCaseIgnorable with
  | [] => false
  | c :: _ => isCased c

/-- Lowercases a text whose earlier characters, nearest first, are `before`. A capital sigma at the
end of a word takes its final form. -/
def lowerAfter (before : List Char) : List Char → List Char
  | [] => []
  | c :: rest =>
    let here :=
      if c == 'Σ' then [if startsCased before && !startsCased rest then 'ς' else 'σ']
      else lowerChar c
    here ++ lowerAfter (c :: before) rest

def lower (s : String) : String := String.ofList (lowerAfter [] s.toList)

def upper (s : String) : String := String.ofList (s.toList.flatMap upperChar)

end SchemaWire.Text

/-! Sorted tables of code points, and the shortest of them: white space. -/
namespace SchemaWire.Text

/-- Inclusive ranges of code points in increasing order. -/
abbrev Ranges := List (Nat × Nat)

/-- The search stops at the first range beyond the code point. -/
def Ranges.contains : Ranges → Nat → Bool
  | [], _ => false
  | (first, last) :: rest, n =>
    if n < first then false else if n ≤ last then true else Ranges.contains rest n

/-- Runs `(first, last, stride)` of evenly spaced code points, in increasing order. -/
abbrev Steps := List (Nat × Nat × Nat)

def Steps.contains : Steps → Nat → Bool
  | [], _ => false
  | (first, last, stride) :: rest, n =>
    if n < first then false
    else if n ≤ last then (n - first) % stride == 0
    else Steps.contains rest n

/-- Runs `(first, last, stride, image)` of code points that a mapping moves by the same amount;
`image` is what becomes of the first. -/
abbrev Shifts := List (Nat × Nat × Nat × Nat)

/-- The image of a code point, or the code point itself when no run holds it. -/
def Shifts.apply : Shifts → Nat → Nat
  | [], n => n
  | (first, last, stride, image) :: rest, n =>
    if n < first then n
    else if n ≤ last then if (n - first) % stride == 0 then image + (n - first) else n
    else Shifts.apply rest n

/-- The code points with the property White_Space. -/
def blankRanges : Ranges := [
  (0x9, 0xD), (0x20, 0x20), (0x85, 0x85), (0xA0, 0xA0), (0x1680, 0x1680), (0x2000, 0x200A),
  (0x2028, 0x2029), (0x202F, 0x202F), (0x205F, 0x205F), (0x3000, 0x3000)]

/-- A character that separates tokens and is otherwise ignored. -/
def isBlank (c : Char) : Bool := blankRanges.contains c.toNat

end SchemaWire.Text

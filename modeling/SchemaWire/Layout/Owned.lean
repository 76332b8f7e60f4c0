import SchemaWire.Layout.Basic
import SchemaWire.Wire.Cursor
import SchemaWire.Wire.Buffer

/-! The owned tier: sizes, encoders and decoders of values that borrow nothing. -/
namespace SchemaWire

abbrev Layout.Owned (l : Layout) : Type := l.In Tier.owned
abbrev Fields.Owned (fs : Fields) : Type := fs.In Tier.owned

mutual

/-- The value with all numbers zero, all texts and arrays empty and all options absent. -/
def Layout.zero : (l : Layout) → l.Owned
  | .scalar t => t.zero
  | .text => ""
  | .packed _ => ([] : List _)
  | .list _ => ([] : List _)
  | .option _ => none
  | .record _ fields => fields.zero

def Fields.zero : (fs : Fields) → fs.Owned
  | .nil => ()
  | .cons _ layout rest => (layout.zero, rest.zero)

end

mutual

/-- Exact number of bytes that `encode` writes. -/
def Layout.size : (l : Layout) → l.Owned → Nat
  | .scalar t, _ => t.size
  | .text, (s : String) => 4 + s.utf8ByteSize
  | .packed t, (xs : List t.Carrier) => 4 + xs.length * t.size
  | .list item, (xs : List item.Owned) => 4 + (xs.map item.size).sum
  | .option item, x =>
    match x with
    | some y => 1 + item.size y
    | none => 1
  | .record _ fields, x => fields.size x

def Fields.size : (fs : Fields) → fs.Owned → Nat
  | .nil, _ => 0
  | .cons _ layout rest, (x, xs) => layout.size x + rest.size xs

end

mutual

def Layout.encode : (l : Layout) → l.Owned → Encode Unit
  | .scalar t, x => Encode.scalar t x
  | .text, (s : String) => Encode.text s
  | .packed t, (xs : List t.Carrier) => Encode.packed t xs
  | .list item, (xs : List item.Owned) => Encode.list item.encode xs
  | .option item, x => Encode.option item.encode x
  | .record _ fields, x => fields.encode x

def Fields.encode : (fs : Fields) → fs.Owned → Encode Unit
  | .nil, _ => pure ()
  | .cons _ layout rest, (x, xs) => do
    layout.encode x
    rest.encode xs

end

mutual

def Layout.decode : (l : Layout) → Decode l.Owned
  | .scalar t => Decode.scalar t
  | .text => Decode.text
  | .packed t => Decode.packed t
  | .list item => Decode.list item.decode
  | .option item => Decode.option item.decode
  | .record _ fields => fields.decode

def Fields.decode : (fs : Fields) → Decode fs.Owned
  | .nil => pure ()
  | .cons _ layout rest => do
    let x ← layout.decode
    let xs ← rest.decode
    return (x, xs)

end

end SchemaWire

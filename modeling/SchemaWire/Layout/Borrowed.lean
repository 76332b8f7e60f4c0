import SchemaWire.Layout.Owned

/-! The borrowed tier: fixed-width arrays are left where they lie in the input. -/
namespace SchemaWire

abbrev Layout.Borrowed (l : Layout) : Type := l.In Tier.borrowed
abbrev Fields.Borrowed (fs : Fields) : Type := fs.In Tier.borrowed

mutual

/-- Reads a value without copying its fixed-width arrays. -/
def Layout.borrow : (l : Layout) → Decode l.Borrowed
  | .scalar t => Decode.scalar t
  | .text => Decode.text
  | .packed t => Decode.view t
  | .list item => Decode.list item.borrow
  | .option item => Decode.option item.borrow
  | .record _ fields => fields.borrow

def Fields.borrow : (fs : Fields) → Decode fs.Borrowed
  | .nil => pure ()
  | .cons _ layout rest => do
    let x ← layout.borrow
    let xs ← rest.borrow
    return (x, xs)

end

mutual

/-- Copies what a value borrows. -/
def Layout.toOwned : (l : Layout) → l.Borrowed → l.Owned
  | .scalar _, x => x
  | .text, x => x
  | .packed _, (v : View _) => v.toList
  | .list item, (xs : List item.Borrowed) => xs.map item.toOwned
  | .option item, x => x.map item.toOwned
  | .record _ fields, x => fields.toOwned x

def Fields.toOwned : (fs : Fields) → fs.Borrowed → fs.Owned
  | .nil, _ => ()
  | .cons _ layout rest, (x, xs) => (layout.toOwned x, rest.toOwned xs)

end

end SchemaWire

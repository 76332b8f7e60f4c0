import SchemaWire.Arena.Basic
import SchemaWire.Wire.ScalarText

/-!
Layouts: how the values of a statically known type lie on the wire. The same layout is decoded in
three tiers, which differ in where texts and arrays live: in owned memory, in the input, or in an
arena. `Layout.In tier` is the type of a layout's values in a tier.
-/
namespace SchemaWire

mutual

inductive Layout where
  | scalar (t : ScalarType)
  | text
  /-- A fixed-width array, its scalars back to back. -/
  | packed (t : ScalarType)
  | list (item : Layout)
  | option (item : Layout)
  | record (name : String) (fields : Fields)
deriving DecidableEq

inductive Fields where
  | nil
  | cons (name : String) (layout : Layout) (rest : Fields)
deriving DecidableEq

end

def Fields.ofList : List (String × Layout) → Fields
  | [] => .nil
  | (name, layout) :: rest => .cons name layout (ofList rest)

/-- Where texts and arrays live, how they are shown and when they are equal. -/
structure Tier where
  TextType : Type
  PackedType : ScalarType → Type
  ListType : Type → Type
  /-- What follows a record's name in dumps. -/
  suffix : String
  dumpText : TextType → String
  dumpPacked : (t : ScalarType) → PackedType t → String
  dumpList : {α : Type} → (α → String) → ListType α → String
  equalText : TextType → TextType → Bool
  equalPacked : (t : ScalarType) → PackedType t → PackedType t → Bool
  equalList : {α : Type} → (α → α → Bool) → ListType α → ListType α → Bool

/-- Lists of the same length whose elements are equal in pairs. -/
def equalLists {α : Type} (equal : α → α → Bool) : List α → List α → Bool
  | [], [] => true
  | x :: xs, y :: ys => equal x y && equalLists equal xs ys
  | _, _ => false

namespace Tier

/-- Everything is copied out of the input. -/
def owned : Tier where
  TextType := String
  PackedType t := List t.Carrier
  ListType := List
  suffix := ""
  dumpText := Text.dumpQuote
  dumpPacked t xs := SchemaWire.dumpList (xs.map t.dump)
  dumpList dump xs := SchemaWire.dumpList (xs.map dump)
  equalText s r := s == r
  equalPacked t := equalLists t.equal
  equalList := equalLists

/-- Texts and fixed-width arrays stay in the input. Views are equal when their bytes are. -/
def borrowed : Tier where
  TextType := String
  PackedType := View
  ListType := List
  suffix := "Ref"
  dumpText := Text.dumpQuote
  dumpPacked t v := SchemaWire.dumpList (v.toList.map t.dump)
  dumpList dump xs := SchemaWire.dumpList (xs.map dump)
  equalText s r := s == r
  equalPacked _ v w := v.bytes == w.bytes
  equalList := equalLists

/-- Texts and arrays are copied into an arena and named by handles. -/
def arena : Tier where
  TextType := Handle
  PackedType _ := Handle
  ListType _ := Handle
  suffix := "In"
  dumpText := Handle.dump "ArenaStr"
  dumpPacked _ := Handle.dump "ArenaSlice"
  dumpList _ := Handle.dump "ArenaList"
  equalText h k := h == k
  equalPacked _ h k := h == k
  equalList _ h k := h == k

end Tier

mutual

/-- The values of a layout in a tier. -/
@[reducible] def Layout.In (tier : Tier) : Layout → Type
  | .scalar t => t.Carrier
  | .text => tier.TextType
  | .packed t => tier.PackedType t
  | .list item => tier.ListType (item.In tier)
  | .option item => Option (item.In tier)
  | .record _ fields => fields.In tier

@[reducible] def Fields.In (tier : Tier) : Fields → Type
  | .nil => Unit
  | .cons _ layout rest => layout.In tier × rest.In tier

end

mutual

def Layout.dump (tier : Tier) : (l : Layout) → l.In tier → String
  | .scalar t, x => t.dump x
  | .text, x => tier.dumpText x
  | .packed t, x => tier.dumpPacked t x
  | .list item, x => tier.dumpList (item.dump tier) x
  | .option item, x =>
    match x with
    | some y => "Some(" ++ item.dump tier y ++ ")"
    | none => "None"
  | .record name fields, x =>
    name ++ tier.suffix ++ " \x7b " ++ String.intercalate ", " (fields.dump tier x) ++ " \x7d"

def Fields.dump (tier : Tier) : (fs : Fields) → fs.In tier → List String
  | .nil, _ => []
  | .cons name layout rest, (x, xs) =>
    (name ++ ": " ++ layout.dump tier x) :: rest.dump tier xs

end

mutual

/-- Equality of values; floats compare as numbers. -/
def Layout.equal (tier : Tier) : (l : Layout) → l.In tier → l.In tier → Bool
  | .scalar t, x, y => t.equal x y
  | .text, x, y => tier.equalText x y
  | .packed t, x, y => tier.equalPacked t x y
  | .list item, x, y => tier.equalList (item.equal tier) x y
  | .option item, x, y =>
    match x, y with
    | some a, some b => item.equal tier a b
    | none, none => true
    | _, _ => false
  | .record _ fields, x, y => fields.equal tier x y

def Fields.equal (tier : Tier) : (fs : Fields) → fs.In tier → fs.In tier → Bool
  | .nil, _, _ => true
  | .cons _ layout rest, (x, xs), (y, ys) => layout.equal tier x y && rest.equal tier xs ys

end

end SchemaWire

import SchemaWire.Message

/-!
A small inventory catalogue. Its four message types between them use every scalar type, texts,
nested arrays, arrays of records and an optional record.
-/
namespace SchemaWire.Catalog

def word (name : String) (w : WordType) : String × Layout := (name, .scalar (.word w))

def pointFields : Fields := .ofList [word "x" .f32, word "y" .f32]

def point : Message := ⟨"Point", 1, pointFields⟩

/-- One of every scalar type, and a text. -/
def allPrimitives : Message where
  name := "AllPrimitives"
  typeId := 2
  fields := .ofList [
    word "a_u8" .u8, word "a_u16" .u16, word "a_u32" .u32, word "a_u64" .u64,
    word "a_i8" .i8, word "a_i16" .i16, word "a_i32" .i32, word "a_i64" .i64,
    word "a_f32" .f32, word "a_f64" .f64, ("a_bool", .scalar .bool), ("a_str", .text)]

def item : Message where
  name := "Item"
  typeId := 3
  fields := .ofList [
    word "id" .u32, ("name", .text), ("tags", .list .text), ("weights", .packed (.word .f64))]

/-- Articles, where they were counted, and a grid of cells. -/
def inventory : Message where
  name := "Inventory"
  typeId := 4
  fields := .ofList [
    ("owner", .text), ("origin", .option point.layout), ("items", .list item.layout),
    ("grid", .list (.packed (.word .u8))), ("flags", .packed .bool)]

/-- The message types in the order of their ids. -/
def messages : List Message := [point, allPrimitives, item, inventory]

def decodeMessage (raw : Bytes) : Except WireError AnyMessage := AnyMessage.decode messages raw

end SchemaWire.Catalog

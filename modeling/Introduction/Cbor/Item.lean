import Introduction.Bytes

/-!
# CBOR data items

The data items of the concise binary object representation, as a reader delivers them: every
integer, byte string, text, array and map the format can express, before any question of which
of them a dictionary can hold.
-/

namespace Introduction.Cbor

/-- A data item. -/
inductive Item where
  /-- An integer. -/
  | integer (n : Int)
  /-- A byte string. -/
  | bytes (content : Bytes)
  /-- A floating-point number, as a double-precision bit pattern. -/
  | float (bits : UInt64)
  /-- A text. -/
  | text (content : String)
  /-- A truth value. -/
  | bool (b : Bool)
  /-- The null value, which the undefined value is read as. -/
  | null
  /-- An item with a semantic tag. -/
  | tag (number : Nat) (content : Item)
  /-- A sequence of items. -/
  | array (items : List Item)
  /-- A sequence of keys, each with a value. -/
  | map (entries : List (Item × Item))

/-- The nine kinds of data item. -/
inductive Kind where
  | integer | bytes | float | text | bool | null | tag | array | map
  deriving DecidableEq, Repr

/-- The name of a kind in error texts. -/
def Kind.name : Kind → String
  | .integer => "integer"
  | .bytes => "bytes"
  | .float => "float"
  | .text => "text"
  | .bool => "bool"
  | .null => "null"
  | .tag => "tag"
  | .array => "array"
  | .map => "map"

/-- The kind of an item. -/
def Item.kind : Item → Kind
  | .integer _ => .integer
  | .bytes _ => .bytes
  | .float _ => .float
  | .text _ => .text
  | .bool _ => .bool
  | .null => .null
  | .tag .. => .tag
  | .array _ => .array
  | .map _ => .map

end Introduction.Cbor

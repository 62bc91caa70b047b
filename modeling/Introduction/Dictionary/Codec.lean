import Introduction.Cbor.Reader
import Introduction.Dictionary.Fields

/-!
# Dictionaries as bytes

A dictionary is encoded as one CBOR map with its keys in order. The encoding of a value is fixed:
integers and lengths have the shortest head, floating-point numbers the shortest format that keeps
every bit, and all lengths are definite. Every dictionary can be encoded, at any depth.

Decoding takes any form of the same items: wider heads and formats, segmented strings, indefinite
lengths and keys in any order. It reads one item, insists that nothing follows it, and then turns
the item into a dictionary entry by entry. What a dictionary cannot hold is refused: keys that are
not texts, keys that repeat, integers beyond 64 bits, nulls and tags.
-/

namespace Introduction

/-! ### Encoding -/

namespace Value

/-- The encoded form of a floating-point number. -/
def encodeFloat (bits : UInt64) : Bytes :=
  match Cbor.FloatFormat.half.narrow? bits.toNat with
  | some narrow => 0xf9 :: Bytes.ofNat 2 narrow
  | none =>
    match Cbor.FloatFormat.single.narrow? bits.toNat with
    | some narrow => 0xfa :: Bytes.ofNat 4 narrow
    | none => 0xfb :: Bytes.ofNat 8 bits.toNat

/-- The encoded form of an integer. -/
def encodeInt (n : Int64) : Bytes :=
  if 0 ≤ n.toInt then Cbor.Head.encode 0 n.toInt.toNat
  else Cbor.Head.encode 1 (-1 - n.toInt).toNat

/-- The encoded form of a text. -/
def encodeText (s : String) : Bytes :=
  let content := Bytes.ofText s
  Cbor.Head.encode 3 content.length ++ content

mutual

/-- The encoded form of a value. -/
def encode : Value → Bytes
  | .bool false => [0xf4]
  | .bool true => [0xf5]
  | .int n => encodeInt n
  | .float bits => encodeFloat bits
  | .string s => encodeText s
  | .raw content => Cbor.Head.encode 2 content.length ++ content
  | .list items => Cbor.Head.encode 4 items.length ++ encodeItems items
  | .dictionary entries => Cbor.Head.encode 5 entries.size ++ encodeEntries entries

/-- The encoded forms of values, one after the other. -/
def encodeItems : List Value → Bytes
  | [] => []
  | item :: items => item.encode ++ encodeItems items

/-- The encoded forms of entries, one after the other. -/
def encodeEntries {floor : Option String} : Ascending String Value floor → Bytes
  | .nil => []
  | .cons key _ value rest => encodeText key ++ (value.encode ++ encodeEntries rest)

end

end Value

/-- The encoded form of a dictionary. -/
def Dictionary.encode (d : Dictionary) : Bytes := (Value.dictionary d).encode

/-! ### Decoding -/

namespace Cbor.Item

mutual

/-- The value that an item stands for. -/
def toValue : Item → Except DecodeError Value
  | .bool b => .ok (.bool b)
  | .integer n =>
    if -2 ^ 63 ≤ n ∧ n < 2 ^ 63 then .ok (.int (Int64.ofInt n)) else .error (.wideInteger n)
  | .float bits => .ok (.float bits)
  | .text s => .ok (.string s)
  | .bytes content => .ok (.raw content)
  | .array items =>
    match toValues items with
    | .error e => .error e
    | .ok values => .ok (.list values)
  | .map entries =>
    match toDictionary Dictionary.empty entries with
    | .error e => .error e
    | .ok d => .ok (.dictionary d)
  | .null => .error (.unsupported .null)
  | .tag .. => .error (.unsupported .tag)

/-- The values that items stand for, in order. -/
def toValues : List Item → Except DecodeError (List Value)
  | [] => .ok []
  | item :: items =>
    match item.toValue with
    | .error e => .error e
    | .ok value =>
      match toValues items with
      | .error e => .error e
      | .ok values => .ok (value :: values)

/-- Adds the entries of a map to a dictionary that has none of their keys. -/
def toDictionary (d : Dictionary) : List (Item × Item) → Except DecodeError Dictionary
  | [] => .ok d
  | (key, item) :: entries =>
    match key with
    | .text key =>
      match item.toValue with
      | .error e => .error e
      | .ok value =>
        if d.contains key then .error (.duplicateKey key)
        else toDictionary (d.insert key value) entries
    | other => .error (.keyNotText other.kind)

end

end Cbor.Item

namespace Dictionary

/-- How deep arrays, maps and tags may be nested in encoded input, counting the outermost map. -/
abbrev maxNesting : Nat := 256

/-- The most bytes of encoded input that are accepted unless a limit is given. -/
abbrev defaultLimit : Nat := 65536

/-- The dictionary that one encoded item stands for. -/
def ofItem : Cbor.Item → Except DecodeError Dictionary
  | .map entries => Cbor.Item.toDictionary Dictionary.empty entries
  | other => .error (.notMap other.kind)

/-- The dictionary that bytes are the encoded form of. -/
def ofBytes (bytes : Bytes) : Except DecodeError Dictionary :=
  match Cbor.Item.read bytes.length maxNesting ⟨0, bytes⟩ with
  | .error fault => .error (.unreadable fault)
  | .ok (item, c) =>
    if c.rest.isEmpty then ofItem item else .error (.trailing c.rest.length)

/-- Decodes a dictionary from at most `limit` bytes. -/
def decode (bytes : Bytes) (limit : Nat) : Except WireError Dictionary :=
  if limit < bytes.length then .error (.tooLarge bytes.length limit)
  else
    match ofBytes bytes with
    | .error cause => .error (.undecodable cause)
    | .ok d => .ok d

end Dictionary

end Introduction

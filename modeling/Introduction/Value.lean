import Introduction.Bytes
import Introduction.OrderedMap

/-!
# Values and dictionaries

A message, and a session at rest, is a dictionary: texts as keys, each with a value of one of seven
kinds. Dictionaries are ordered maps, so two of them with the same entries are equal, however they
were built, and listing one gives its entries by key in the order of the UTF-8 forms.

Floating-point values are held as bit patterns. `Value.agrees` is the equality that compares them
as numbers instead, under which the two zeros agree and a NaN agrees with nothing.
-/

namespace Introduction

/-- A value in a dictionary. -/
inductive Value where
  /-- A truth value. -/
  | bool (b : Bool)
  /-- A signed integer of 64 bits. -/
  | int (n : Int64)
  /-- A floating-point number, as a double-precision bit pattern. -/
  | float (bits : UInt64)
  /-- A text. -/
  | string (s : String)
  /-- A byte string. -/
  | raw (bytes : Bytes)
  /-- A sequence of values. -/
  | list (items : List Value)
  /-- A dictionary inside a dictionary. -/
  | dictionary (entries : Ascending String Value none)

/-- Texts as keys, each with a value. -/
abbrev Dictionary : Type := OrderedMap String Value

namespace Value

/-- The seven kinds of value. -/
inductive Kind where
  | bool | int | float | string | raw | list | dictionary
  deriving DecidableEq, Repr

/-- The name of a kind in error texts. -/
def Kind.name : Kind → String
  | .bool => "bool"
  | .int => "int"
  | .float => "float"
  | .string => "string"
  | .raw => "raw"
  | .list => "list"
  | .dictionary => "dictionary"

/-- The kind of a value. -/
def kind : Value → Kind
  | .bool _ => .bool
  | .int _ => .int
  | .float _ => .float
  | .string _ => .string
  | .raw _ => .raw
  | .list _ => .list
  | .dictionary _ => .dictionary

/-- The integer value of an unsigned number of 32 bits. -/
def ofUInt32 (n : UInt32) : Value := .int (Int64.ofNat n.toNat)

/-- Whether a double-precision bit pattern is not a number. -/
def isNaN (bits : UInt64) : Bool :=
  0x7ff0000000000000 < (bits &&& 0x7fffffffffffffff)

/-- Whether two double-precision bit patterns are equal as numbers. -/
def sameNumber (a b : UInt64) : Bool :=
  !isNaN a && !isNaN b && (a == b || (a ||| b) &&& 0x7fffffffffffffff == 0)

mutual

/-- Equality of values that compares floating-point numbers as numbers. -/
def agrees : Value → Value → Bool
  | .bool a, .bool b => a == b
  | .int a, .int b => a == b
  | .float a, .float b => sameNumber a b
  | .string a, .string b => a == b
  | .raw a, .raw b => a == b
  | .list a, .list b => allAgree a b
  | .dictionary a, .dictionary b => entriesAgree a b
  | _, _ => false

/-- Equality of sequences of values that compares floating-point numbers as numbers. -/
def allAgree : List Value → List Value → Bool
  | [], [] => true
  | a :: as, b :: bs => a.agrees b && allAgree as bs
  | _, _ => false

/-- Equality of dictionaries that compares floating-point numbers as numbers. -/
def entriesAgree {floor floor' : Option String} :
    Ascending String Value floor → Ascending String Value floor' → Bool
  | .nil, .nil => true
  | .cons key _ a as, .cons key' _ b bs => key == key' && a.agrees b && entriesAgree as bs
  | _, _ => false

end

end Value

namespace Dictionary

/-- The dictionary without entries. -/
abbrev empty : Dictionary := OrderedMap.empty

/-- Stores a value under a key, in place of what was there. -/
abbrev insert (d : Dictionary) (key : String) (value : Value) : Dictionary :=
  OrderedMap.insert d key value

/-- Stores a value under a key, if there is one. -/
def insertSome (d : Dictionary) (key : String) : Option Value → Dictionary
  | none => d
  | some value => d.insert key value

/-- Equality of dictionaries that compares floating-point numbers as numbers. -/
def agrees (d e : Dictionary) : Bool := Value.entriesAgree d e

end Dictionary

end Introduction

import Introduction.Cbor.FloatFormat

/-!
# Heads of data items

Every data item begins with a head: an initial byte whose upper three bits are the major type and
whose lower five bits either are the argument, or announce that it follows in one, two, four or
eight bytes, or announce an indefinite length.

Reading works on a `Cursor`, which knows how far it has come, because a fault names the offset at
which it lies. Writing uses the shortest head for an argument.
-/

namespace Introduction.Cbor

/-- What is left of the input, and how many bytes of it came before. -/
structure Cursor where
  /-- Number of bytes consumed. -/
  offset : Nat
  /-- Bytes still to be read. -/
  rest : Bytes
  deriving DecidableEq, Repr

/-- Why no data item can be read. -/
inductive Fault where
  /-- The input ends inside an item. -/
  | endOfInput
  /-- The bytes at this offset begin nothing, or not what has to come there. -/
  | syntaxAt (offset : Nat)
  /-- The mark that ends an indefinite-length item stands where an item is expected. -/
  | strayBreak
  /-- A simple value without a meaning. -/
  | unknownSimple
  /-- A negative big number below the range of 128-bit integers. -/
  | integerTooLarge
  /-- Items are nested too deeply. -/
  | tooDeep
  deriving DecidableEq, Repr

/-- The text of a fault. -/
def Fault.message : Fault → String
  | .endOfInput =>
    "Io(Error \x7b kind: UnexpectedEof, message: \"failed to fill whole buffer\" \x7d)"
  | .syntaxAt offset => "Syntax(" ++ toString offset ++ ")"
  | .strayBreak => "Semantic(None, \"invalid type: break, expected non-break\")"
  | .unknownSimple => "Semantic(None, \"invalid type: simple, expected known simple value\")"
  | .integerTooLarge => "Semantic(None, \"integer too large\")"
  | .tooDeep => "RecursionLimitExceeded"

/-- A result with the input left after it, or a fault. -/
abbrev Reading (α : Type) : Type := Except Fault (α × Cursor)

namespace Cursor

/-- Takes `n` bytes, in front of which stand those of `taken`, last one first. -/
def takeOnto (taken : Bytes) : Nat → Cursor → Reading Bytes
  | 0, c => .ok (taken.reverse, c)
  | _ + 1, ⟨_, []⟩ => .error .endOfInput
  | n + 1, ⟨offset, b :: rest⟩ => takeOnto (b :: taken) n ⟨offset + 1, rest⟩

/-- Takes the next `n` bytes. -/
def take (n : Nat) (c : Cursor) : Reading Bytes := takeOnto [] n c

theorem takeOnto_append (taken bytes rest : Bytes) (offset : Nat) :
    takeOnto taken bytes.length ⟨offset, bytes ++ rest⟩ =
      .ok (taken.reverse ++ bytes, ⟨offset + bytes.length, rest⟩) := by
  induction bytes generalizing taken offset with
  | nil => simp [takeOnto]
  | cons b bytes ih => simp [takeOnto, ih]; omega

/-- Taking as many bytes as stand in front gives them. -/
theorem take_append (bytes rest : Bytes) (offset : Nat) :
    take bytes.length ⟨offset, bytes ++ rest⟩ = .ok (bytes, ⟨offset + bytes.length, rest⟩) :=
  takeOnto_append [] bytes rest offset

end Cursor

/-- The head of a data item. A length that is absent is indefinite. -/
inductive Head where
  /-- The integer `n`. -/
  | positive (n : Nat)
  /-- The integer `-1 - n`. -/
  | negative (n : Nat)
  /-- A byte string of this length. -/
  | bytes (length : Option Nat)
  /-- A text of this length in bytes. -/
  | text (length : Option Nat)
  /-- An array of this many items. -/
  | array (length : Option Nat)
  /-- A map of this many entries. -/
  | map (length : Option Nat)
  /-- A tag of the item that follows. -/
  | tag (number : Nat)
  /-- A simple value. -/
  | simple (n : Nat)
  /-- A floating-point number, as a double-precision bit pattern. -/
  | float (bits : UInt64)
  /-- The end of an indefinite-length item. -/
  | break
  deriving DecidableEq, Repr

namespace Head

/-- The argument that the low five bits of the initial byte announce; absent when they announce an
indefinite length. `offset` is the offset of the initial byte. -/
def readArgument (offset info : Nat) (c : Cursor) : Reading (Option Nat) :=
  let following (width : Nat) : Reading (Option Nat) :=
    match c.take width with
    | .error e => .error e
    | .ok (digits, c) => .ok (some digits.toNat, c)
  if info < 24 then .ok (some info, c)
  else if info = 24 then following 1
  else if info = 25 then following 2
  else if info = 26 then following 4
  else if info = 27 then following 8
  else if info = 31 then .ok (none, c)
  else .error (.syntaxAt offset)

/-- The head with a major type below seven and an argument, if there is one. An integer and a tag
need an argument. -/
def ofArgument? (major : Nat) (argument : Option Nat) : Option Head :=
  match major, argument with
  | 0, some n => some (.positive n)
  | 1, some n => some (.negative n)
  | 2, length => some (.bytes length)
  | 3, length => some (.text length)
  | 4, length => some (.array length)
  | 5, length => some (.map length)
  | 6, some n => some (.tag n)
  | _, _ => none

/-- The head of major type seven: the width of the argument tells a simple value from a
floating-point number. -/
def ofSeventh (info : Nat) : Option Nat → Head
  | none => .break
  | some n =>
    if info = 25 then .float (UInt64.ofNat (FloatFormat.half.widen n))
    else if info = 26 then .float (UInt64.ofNat (FloatFormat.single.widen n))
    else if info = 27 then .float (UInt64.ofNat n)
    else .simple n

/-- Reads the head at the cursor. -/
def read : Cursor → Reading Head
  | ⟨_, []⟩ => .error .endOfInput
  | ⟨offset, initial :: rest⟩ =>
    let major := initial.toNat / 32
    let info := initial.toNat % 32
    match readArgument offset info ⟨offset + 1, rest⟩ with
    | .error e => .error e
    | .ok (argument, c) =>
      if major = 7 then .ok (ofSeventh info argument, c)
      else
        match ofArgument? major argument with
        | some head => .ok (head, c)
        | none => .error (.syntaxAt offset)

/-- The number of bytes of the shortest head with an argument. -/
def size (n : Nat) : Nat :=
  if n < 24 then 1
  else if n < 2 ^ 8 then 2
  else if n < 2 ^ 16 then 3
  else if n < 2 ^ 32 then 5
  else 9

/-- The shortest head of a major type with an argument below `2 ^ 64`. -/
def encode (major n : Nat) : Bytes :=
  if n < 24 then [UInt8.ofNat (major * 32 + n)]
  else if n < 2 ^ 8 then UInt8.ofNat (major * 32 + 24) :: Bytes.ofNat 1 n
  else if n < 2 ^ 16 then UInt8.ofNat (major * 32 + 25) :: Bytes.ofNat 2 n
  else if n < 2 ^ 32 then UInt8.ofNat (major * 32 + 26) :: Bytes.ofNat 4 n
  else UInt8.ofNat (major * 32 + 27) :: Bytes.ofNat 8 n

@[simp] theorem length_encode (major n : Nat) : (encode major n).length = size n := by
  unfold encode size
  repeat' split
  all_goals simp

end Head

end Introduction.Cbor

import Introduction.Cbor.Head
import Introduction.Cbor.Item

/-!
# Reading data items

`Item.read levels` reads one data item whose arrays, maps and tags are nested at most `levels`
deep. The number of levels is also what the recursion runs on: an item read with one level more
may contain any item read with the levels below.

Besides well-formed items of definite length, a reader meets

* strings in segments: an indefinite-length string is the segments up to its break, and a string
  of indefinite length may stand among them and has a break of its own;
* arrays and maps of indefinite length, where the break may stand in place of an element or key;
* big numbers: tag 2 or 3 before a byte string of at most sixteen bytes stands for an integer as
  far as sixty-four bits hold its magnitude.

Loops that end at a break carry a bound on the number of rounds. Every round consumes a byte, so a
bound of at least the length of the input is never met.
-/

namespace Introduction.Cbor

/-- Reads `n` times, after the results already `done`, last one first. -/
def readTimes {α : Type} (read : Cursor → Reading α) (done : List α) :
    Nat → Cursor → Reading (List α)
  | 0, c => .ok (done.reverse, c)
  | n + 1, c =>
    match read c with
    | .error e => .error e
    | .ok (x, c) => readTimes read (x :: done) n c

/-- Reads until a break, at most `bound` times. -/
def readUntilBreak {α : Type} (read : Cursor → Reading α) (done : List α) :
    (bound : Nat) → Cursor → Reading (List α)
  | 0, _ => .error .endOfInput
  | bound + 1, c =>
    match Head.read c with
    | .error e => .error e
    | .ok (.break, c) => .ok (done.reverse, c)
    | .ok _ =>
      match read c with
      | .error e => .error e
      | .ok (x, c) => readUntilBreak read (x :: done) bound c

/-- Reads a sequence of definite or indefinite length. -/
def readSequence {α : Type} (bound : Nat) (read : Cursor → Reading α) :
    Option Nat → Cursor → Reading (List α)
  | some n, c => readTimes read [] n c
  | none, c => readUntilBreak read [] bound c

/-- Reads a key and its value. -/
def readEntry (read : Cursor → Reading Item) (c : Cursor) : Reading (Item × Item) :=
  match read c with
  | .error e => .error e
  | .ok (key, c) =>
    match read c with
    | .error e => .error e
    | .ok (value, c) => .ok ((key, value), c)

/-! ### Strings -/

/-- The two kinds of string. -/
inductive StringKind where
  /-- Octets as they are. -/
  | bytes
  /-- Octets that are the UTF-8 form of a text. -/
  | text
  deriving DecidableEq, Repr

/-- The length of a string of this kind, if the head begins one; the length is absent in turn when
it is indefinite. -/
def Head.stringLength? : StringKind → Head → Option (Option Nat)
  | .bytes, .bytes length => some length
  | .text, .text length => some length
  | _, _ => none

/-- Whether the octets may stand in a string of this kind. -/
def StringKind.admits (kind : StringKind) (content : Bytes) : Bool :=
  match kind with
  | .bytes => true
  | .text => content.toText?.isSome

/-- Reads the segments of an indefinite-length string. `depth` is the number of strings opened
inside it that are not closed yet, and `done` are the segments before, last one first. Each segment
has to be well formed by itself. -/
def readSegments (kind : StringKind) (done : List Bytes) :
    (bound depth : Nat) → Cursor → Reading Bytes
  | 0, _, _ => .error .endOfInput
  | bound + 1, depth, c =>
    match Head.read c with
    | .error e => .error e
    | .ok (.break, next) =>
      match depth with
      | 0 => .ok (done.reverse.flatten, next)
      | depth + 1 => readSegments kind done bound depth next
    | .ok (head, next) =>
      match head.stringLength? kind with
      | none => .error (.syntaxAt c.offset)
      | some none => readSegments kind done bound (depth + 1) next
      | some (some length) =>
        match next.take length with
        | .error e => .error e
        | .ok (content, next) =>
          if kind.admits content then readSegments kind (content :: done) bound depth next
          else .error (.syntaxAt c.offset)

/-- Reads the octets of a string, of which the head is read already. A definite-length text that
is not well formed is reported as if its head were the shortest one. -/
def readString (bound : Nat) (kind : StringKind) : Option Nat → Cursor → Reading Bytes
  | none, c => readSegments kind [] bound 0 c
  | some length, c =>
    match c.take length with
    | .error e => .error e
    | .ok (content, next) =>
      if kind.admits content then .ok (content, next)
      else .error (.syntaxAt (c.offset - Head.size length))

/-! ### Items -/

/-- The item that tag 2 (`negative = false`) or tag 3 gives a byte string of at most sixteen
bytes. -/
def bigNumber (negative : Bool) (content : Bytes) : Except Fault Item :=
  let n := content.toNat
  if n < 2 ^ 64 then .ok (.integer (if negative then -1 - (n : Int) else n))
  else if negative then
    if n < 2 ^ 127 then .ok (.tag 3 (.bytes content)) else .error .integerTooLarge
  else .ok (.tag 2 (.bytes content))

/-- The length of the byte string that makes a big number of a tag, if one follows. -/
def bigNumberLength? (number : Nat) : Head → Option Nat
  | .bytes (some length) =>
    if (number = 2 ∨ number = 3) ∧ length ≤ 16 then some length else none
  | _ => none

/-- A simple value with a meaning. -/
def simpleItem? : Nat → Option Item
  | 20 => some (.bool false)
  | 21 => some (.bool true)
  | 22 => some .null
  | 23 => some .null
  | _ => none

/-- Replaces the result of a reading. -/
def Reading.map {α β : Type} (f : α → β) : Reading α → Reading β
  | .error e => .error e
  | .ok (x, c) => .ok (f x, c)

/-- Reads a tagged item, of which the tag is read already. -/
def readTagged (nested : Option (Cursor → Reading Item)) (number : Nat) (c : Cursor) :
    Reading Item :=
  match Head.read c with
  | .error e => .error e
  | .ok (head, next) =>
    match bigNumberLength? number head with
    | some length =>
      match next.take length with
      | .error e => .error e
      | .ok (content, next) =>
        match bigNumber (number = 3) content with
        | .error e => .error e
        | .ok item => .ok (item, next)
    | none =>
      match nested with
      | none => .error .tooDeep
      | some read => (read c).map (.tag number)

/-- Reads an item, where `nested` reads the items inside it; it is absent when no level is left
for them. -/
def readItem (bound : Nat) (nested : Option (Cursor → Reading Item)) (c : Cursor) :
    Reading Item :=
  match Head.read c with
  | .error e => .error e
  | .ok (head, c) =>
    match head with
    | .positive n => .ok (.integer n, c)
    | .negative n => .ok (.integer (-1 - (n : Int)), c)
    | .bytes length => (readString bound .bytes length c).map .bytes
    | .text length =>
      (readString bound .text length c).map fun content => .text (content.toText?.getD "")
    | .array length =>
      match nested with
      | none => .error .tooDeep
      | some read => (readSequence bound read length c).map .array
    | .map length =>
      match nested with
      | none => .error .tooDeep
      | some read => (readSequence bound (readEntry read) length c).map .map
    | .tag number => readTagged nested number c
    | .simple n =>
      match simpleItem? n with
      | some item => .ok (item, c)
      | none => .error .unknownSimple
    | .float bits => .ok (.float bits, c)
    | .break => .error .strayBreak

/-- Reads one item whose arrays, maps and tags are nested at most `levels` deep. -/
def Item.read (bound : Nat) : (levels : Nat) → Cursor → Reading Item
  | 0 => readItem bound none
  | levels + 1 => readItem bound (some (Item.read bound levels))

end Introduction.Cbor

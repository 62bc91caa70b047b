import Introduction.Bytes

/-!
# Identifiers

Sessions, channels, messages and authors are named by 32 bytes each. The type of an identifier
records which of the four it names, so that none can stand for another. Identifiers are ordered as
byte strings, which is the order in which they are listed wherever they are keys.
-/

namespace Introduction

/-- What an identifier names. -/
inductive Identifier.Kind where
  | session | channel | message | author
  deriving DecidableEq, Repr

namespace Identifier.Kind

/-- What an identifier of this kind is called in error texts. -/
def noun : Kind → String
  | .session => "session id"
  | .channel => "group id"
  | .message => "message id"
  | .author => "author id"

/-- The label of an identifier of this kind in diagnostics. -/
def label : Kind → String
  | .session => "SessionId"
  | .channel => "GroupId"
  | .message => "MessageId"
  | .author => "AuthorId"

end Identifier.Kind

/-- The number of bytes of an identifier. -/
abbrev Identifier.length : Nat := 32

/-- An identifier of the given kind. -/
structure Identifier (kind : Identifier.Kind) where
  /-- The identifying bytes. -/
  bytes : Bytes
  /-- Their number is fixed. -/
  length_bytes : bytes.length = Identifier.length
  deriving DecidableEq

/-- Names an introduction. -/
abbrev SessionId : Type := Identifier .session

/-- Names a channel: the private group shared with one contact. -/
abbrev ChannelId : Type := Identifier .channel

/-- Names a message. -/
abbrev MessageId : Type := Identifier .message

/-- Names an author. -/
abbrev AuthorId : Type := Identifier .author

namespace Identifier

variable {kind : Identifier.Kind}

theorem ext {a b : Identifier kind} (h : a.bytes = b.bytes) : a = b := by
  cases a; cases b; simp_all

/-- The identifier with the given bytes, if their number is right. -/
def ofBytes? (bytes : Bytes) : Option (Identifier kind) :=
  if h : bytes.length = length then some ⟨bytes, h⟩ else none

/-- The identifier whose bytes are all equal to one. -/
def replicate (b : UInt8) : Identifier kind := ⟨List.replicate length b, by simp⟩

/-- All 64 hexadecimal digits. -/
def toHex (id : Identifier kind) : String := Bytes.toHex id.bytes

/-- The hexadecimal digits of the first four bytes, for log lines. -/
def short (id : Identifier kind) : String := Bytes.toHex (id.bytes.take 4)

/-- The label of the kind around the short form. -/
def labelled (id : Identifier kind) : String := kind.label ++ "(" ++ id.short ++ ")"

/-! ### Order -/

instance : LT (Identifier kind) := ⟨fun a b => a.bytes < b.bytes⟩

instance : LE (Identifier kind) := ⟨fun a b => a.bytes ≤ b.bytes⟩

instance : DecidableLT (Identifier kind) := fun a b =>
  inferInstanceAs (Decidable (a.bytes < b.bytes))

instance : Std.IsLinearOrder (Identifier kind) where
  le_refl a := Std.le_refl a.bytes
  le_trans _ _ _ h h' := Std.le_trans (α := Bytes) h h'
  le_antisymm _ _ h h' := ext (Std.le_antisymm h h')
  le_total a b := Std.le_total (a := a.bytes) (b := b.bytes)

instance : Std.LawfulOrderLT (Identifier kind) where
  lt_iff a b := Std.LawfulOrderLT.lt_iff a.bytes b.bytes

/-- How an identifier stands to another in the order of their bytes. -/
def compare (a b : Identifier kind) : Ordering :=
  if a < b then .lt else if b < a then .gt else .eq

end Identifier

/-- Names a contact in the introducer's own address book. -/
structure ContactId where
  /-- The number of the contact. -/
  number : UInt32
  deriving DecidableEq, Repr

namespace ContactId

/-- The number in decimal. -/
def text (id : ContactId) : String := toString id.number.toNat

/-- The number with the label of its kind. -/
def labelled (id : ContactId) : String := "ContactId(" ++ id.text ++ ")"

/-- How a contact id stands to another by number. -/
def compare (a b : ContactId) : Ordering :=
  if a.number < b.number then .lt else if b.number < a.number then .gt else .eq

end ContactId

end Introduction

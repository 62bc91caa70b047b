/-!
# Byte strings

Byte strings as lists of octets, their hexadecimal text and their reading as unsigned numbers,
most significant octet first.
-/

-- powers of numbers are those of the core library, whatever is imported beside this module: with
-- numerals by default, and in this module always
attribute [default_instance 20000] instPowNat
attribute [local instance (high)] instPowNat

namespace Introduction

/-- A byte string. -/
abbrev Bytes : Type := List UInt8

namespace Bytes

/-- The lower-case hexadecimal digit of a number below sixteen. -/
def hexDigit (n : Nat) : Char :=
  if n < 10 then Char.ofNat ('0'.toNat + n) else Char.ofNat ('a'.toNat + (n - 10))

/-- Two lower-case hexadecimal digits per octet. -/
def toHex (bytes : Bytes) : String :=
  String.ofList (bytes.flatMap fun b => [hexDigit (b.toNat / 16), hexDigit (b.toNat % 16)])

/-- The number written by the octets, most significant first. -/
def toNat (bytes : Bytes) : Nat :=
  bytes.foldl (fun n b => n * 256 + b.toNat) 0

/-- The lowest `width` octets of a number, most significant first. -/
def ofNat : (width : Nat) → Nat → Bytes
  | 0, _ => []
  | width + 1, n => UInt8.ofNat (n / 256 ^ width) :: ofNat width n

@[simp] theorem length_ofNat (width n : Nat) : (ofNat width n).length = width := by
  induction width with
  | zero => rfl
  | succ width ih => simp [ofNat, ih]

/-- The text whose UTF-8 form these octets are. -/
def toText? (bytes : Bytes) : Option String :=
  String.fromUTF8? bytes.toByteArray

/-- The UTF-8 form of a text. -/
def ofText (s : String) : Bytes :=
  s.toUTF8.data.toList

theorem toByteArray_ofText (s : String) : (ofText s).toByteArray = s.toByteArray := by
  apply ByteArray.ext
  simp [ofText]

/-- A text is read back from its UTF-8 form. -/
@[simp] theorem toText?_ofText (s : String) : toText? (ofText s) = some s := by
  unfold toText? String.fromUTF8?
  rw [dif_pos (by rw [toByteArray_ofText]; exact s.isValidUTF8)]
  exact congrArg some (String.toByteArray_inj.1 (toByteArray_ofText s))

/-- Octets that can be read as a text are its UTF-8 form. -/
theorem ofText_of_toText? {bytes : Bytes} {s : String} (h : toText? bytes = some s) :
    ofText s = bytes := by
  unfold toText? String.fromUTF8? at h
  split at h
  · cases h
    show (List.toByteArray bytes).data.toList = bytes
    simp
  · cases h

end Bytes

end Introduction

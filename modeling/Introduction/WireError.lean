import Introduction.Cbor.Head
import Introduction.Cbor.Item
import Introduction.Identifier
import Introduction.Message.Kind
import Introduction.Value

/-!
# Malformed input

Why bytes are not a dictionary, or a dictionary is not the message, session or action it is read
as. Every cause is a constructor; the texts are in `DecodeError.message` and `WireError.message`.
-/

namespace Introduction

/-- Why bytes are not the encoded form of a dictionary, or a dictionary not that of a session. -/
inductive DecodeError where
  /-- No data item can be read. -/
  | unreadable (fault : Cbor.Fault)
  /-- Bytes are left after the data item. -/
  | trailing (count : Nat)
  /-- The data item is not a map. -/
  | notMap (found : Cbor.Kind)
  /-- A map has a key that is not a text. -/
  | keyNotText (found : Cbor.Kind)
  /-- A map has a key twice. -/
  | duplicateKey (key : String)
  /-- Dictionaries hold no item of this kind. -/
  | unsupported (found : Cbor.Kind)
  /-- An integer does not fit 64 bits with a sign. -/
  | wideInteger (n : Int)
  /-- Both contacts of a session have one channel. -/
  | equalChannels
  deriving DecidableEq, Repr

/-- The text of a decoding error. -/
def DecodeError.message : DecodeError → String
  | .unreadable fault => fault.message
  | .trailing count => toString count ++ " trailing bytes"
  | .notMap found => "expected map, found " ++ found.name
  | .keyNotText found => "map key is " ++ found.name
  | .duplicateKey key => "duplicate key '" ++ key ++ "'"
  | .unsupported found => "unsupported item: " ++ found.name
  | .wideInteger n => "integer " ++ toString n ++ " exceeds 64 bits"
  | .equalChannels => "session channels are equal"

/-- Why input is not what it is read as. -/
inductive WireError where
  /-- A required key is absent. -/
  | missingKey (key : String)
  /-- A key holds a value of another kind. -/
  | wrongKind (key : String) (expected found : Value.Kind)
  /-- A message is of another kind. -/
  | wrongMessage (expected found : Message.Kind)
  /-- An identifier has the wrong number of bytes. -/
  | invalidLength (kind : Identifier.Kind) (actual : Nat)
  /-- No message has this type number. -/
  | unknownMessageType (n : Int64)
  /-- An integer is outside the range of what it stands for. -/
  | integerOutOfRange (key : String) (n : Int64)
  /-- There are more bytes than allowed. -/
  | tooLarge (size limit : Nat)
  /-- The bytes are not an encoded dictionary. -/
  | undecodable (cause : DecodeError)
  deriving DecidableEq, Repr

/-- The text of an error. -/
def WireError.message : WireError → String
  | .missingKey key => "missing required key '" ++ key ++ "'"
  | .wrongKind key expected found =>
    "key '" ++ key ++ "' holds " ++ found.name ++ ", expected " ++ expected.name
  | .wrongMessage expected found =>
    "key 'type' holds " ++ found.name ++ ", expected " ++ expected.name
  | .invalidLength kind actual =>
    "invalid length for " ++ kind.noun ++ ": expected " ++ toString Identifier.length ++
      " bytes, got " ++ toString actual
  | .unknownMessageType n => "unknown message type " ++ toString n.toInt
  | .integerOutOfRange key n =>
    "integer out of range for key '" ++ key ++ "': " ++ toString n.toInt
  | .tooLarge size limit =>
    "encoded size " ++ toString size ++ " exceeds limit " ++ toString limit
  | .undecodable cause => "decode error: " ++ cause.message

end Introduction

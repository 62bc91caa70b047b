import Introduction.Dictionary.Fields
import Introduction.Dictionary.Key

/-!
# Messages

A message travels as a dictionary. The types here are typed views of such dictionaries: they are
used to make outgoing messages and to check incoming ones. A dictionary may hold more entries than
its view shows, and a message that is passed on keeps them.

Reading a view reads the header first and checks the kind it names, then the fields of the view,
one after the other; the first fault is the one reported. `Message.ofDictionary` reads the view
that the header names.

The wire holds signed integers of 64 bits. A time beyond their range is written as the largest of
them.
-/

namespace Introduction.Message

/-- The fields that every message has. -/
structure Header where
  /-- The kind of message. -/
  kind : Kind
  /-- The session it belongs to. -/
  session : SessionId
  /-- The channel it travels on. -/
  channel : ChannelId
  deriving DecidableEq

/-- Asks a contact to accept an introduction. -/
structure Request where
  /-- The session it belongs to. -/
  session : SessionId
  /-- The channel of the contact that is asked. -/
  channel : ChannelId
  /-- The name of the contact being introduced. -/
  name : String
  /-- The public key of the contact being introduced. -/
  publicKey : Bytes
  /-- A note from the introducer. -/
  note : Option String
  deriving DecidableEq

/-- A contact's answer to a request. -/
structure Response where
  /-- The session it belongs to. -/
  session : SessionId
  /-- The channel it travels on. -/
  channel : ChannelId
  /-- Names this response. -/
  message : MessageId
  /-- When it was sent, in milliseconds. -/
  time : UInt64
  /-- Whether the contact accepts. -/
  accept : Bool
  deriving DecidableEq

/-- Confirms that a contact has seen the other contact's response. -/
structure Ack where
  /-- The session it belongs to. -/
  session : SessionId
  /-- The channel it travels on. -/
  channel : ChannelId
  /-- Names this ack. -/
  message : MessageId
  deriving DecidableEq

/-- Gives an introduction up. -/
structure Abort where
  /-- The session it belongs to. -/
  session : SessionId
  /-- The channel it travels on. -/
  channel : ChannelId
  deriving DecidableEq

/-- The kind with a number, or the error that there is none. -/
def Kind.ofNumber (n : Int64) : Except WireError Kind :=
  match ofNumber? n with
  | some kind => .ok kind
  | none => .error (.unknownMessageType n)

namespace Header

/-- Reads the fields that every message has. -/
def ofDictionary (d : Dictionary) : Except WireError Header := do
  let kind ← Kind.ofNumber (← d.getInt Key.type)
  let session ← d.getId Key.session
  let channel ← d.getId Key.channel
  return ⟨kind, session, channel⟩

/-- Reads the fields that every message has from a message of the given kind. -/
def expect (kind : Kind) (d : Dictionary) : Except WireError Header := do
  let header ← ofDictionary d
  if header.kind = kind then return header
  else throw (.wrongMessage kind header.kind)

/-- The entries that every message has. -/
def toDictionary (h : Header) : Dictionary :=
  Dictionary.empty
    |>.insert Key.type (.int h.kind.number)
    |>.insert Key.session (.raw h.session.bytes)
    |>.insert Key.channel (.raw h.channel.bytes)

end Header

namespace Request

/-- Reads a request. -/
def ofDictionary (d : Dictionary) : Except WireError Request := do
  let header ← Header.expect .request d
  let name ← d.getString Key.name
  let publicKey ← d.getRaw Key.publicKey
  let note ← d.getString? Key.note
  return ⟨header.session, header.channel, name, publicKey, note⟩

/-- The wire form of a request. -/
def toDictionary (m : Request) : Dictionary :=
  Header.toDictionary ⟨.request, m.session, m.channel⟩
    |>.insert Key.name (.string m.name)
    |>.insert Key.publicKey (.raw m.publicKey)
    |>.insertSome Key.note (m.note.map .string)

end Request

namespace Response

/-- The time as a signed integer, or the largest one if it is beyond their range. -/
def signedTime (time : UInt64) : Int64 :=
  if time.toNat < 2 ^ 63 then Int64.ofNat time.toNat else Int64.maxValue

/-- Reads a response. -/
def ofDictionary (d : Dictionary) : Except WireError Response := do
  let header ← Header.expect .response d
  let time ← d.getInt Key.time
  if time.toInt < 0 then throw (.integerOutOfRange Key.time time)
  let message ← d.getId Key.message
  let accept ← d.getBool Key.accept
  return ⟨header.session, header.channel, message, UInt64.ofNat time.toInt.toNat, accept⟩

/-- The wire form of a response. -/
def toDictionary (m : Response) : Dictionary :=
  Header.toDictionary ⟨.response, m.session, m.channel⟩
    |>.insert Key.message (.raw m.message.bytes)
    |>.insert Key.time (.int (signedTime m.time))
    |>.insert Key.accept (.bool m.accept)

end Response

namespace Ack

/-- Reads an ack. -/
def ofDictionary (d : Dictionary) : Except WireError Ack := do
  let header ← Header.expect .ack d
  let message ← d.getId Key.message
  return ⟨header.session, header.channel, message⟩

/-- The wire form of an ack. -/
def toDictionary (m : Ack) : Dictionary :=
  Header.toDictionary ⟨.ack, m.session, m.channel⟩
    |>.insert Key.message (.raw m.message.bytes)

end Ack

namespace Abort

/-- Reads an abort. -/
def ofDictionary (d : Dictionary) : Except WireError Abort := do
  let header ← Header.expect .abort d
  return ⟨header.session, header.channel⟩

/-- The wire form of an abort. -/
def toDictionary (m : Abort) : Dictionary :=
  Header.toDictionary ⟨.abort, m.session, m.channel⟩

end Abort

end Introduction.Message

namespace Introduction

/-- A message of an introduction. -/
inductive Message where
  | request (m : Message.Request)
  | response (m : Message.Response)
  | ack (m : Message.Ack)
  | abort (m : Message.Abort)
  deriving DecidableEq

namespace Message

/-- The kind of a message. -/
def kind : Message → Kind
  | .request _ => .request
  | .response _ => .response
  | .ack _ => .ack
  | .abort _ => .abort

/-- The session that a message belongs to. -/
def session : Message → SessionId
  | .request m => m.session
  | .response m => m.session
  | .ack m => m.session
  | .abort m => m.session

/-- The channel that a message travels on. -/
def channel : Message → ChannelId
  | .request m => m.channel
  | .response m => m.channel
  | .ack m => m.channel
  | .abort m => m.channel

/-- The wire form of a message. -/
def toDictionary : Message → Dictionary
  | .request m => m.toDictionary
  | .response m => m.toDictionary
  | .ack m => m.toDictionary
  | .abort m => m.toDictionary

/-- Reads a message of the kind that its header names. -/
def ofDictionary (d : Dictionary) : Except WireError Message := do
  let header ← Header.ofDictionary d
  match header.kind with
  | .request => return .request (← Request.ofDictionary d)
  | .response => return .response (← Response.ofDictionary d)
  | .ack => return .ack (← Ack.ofDictionary d)
  | .abort => return .abort (← Abort.ofDictionary d)

end Message

end Introduction

import Introduction.Notice
import Introduction.Session.Basic

/-!
# Updates

What a session answers to an input: the session afterwards, the messages to send, the events to
publish and whether to delete anything. An update describes effects and performs none.
-/

namespace Introduction

/-- A message addressed to a channel. -/
structure Envelope where
  /-- The channel it is sent on. -/
  channel : ChannelId
  /-- The message. -/
  message : Dictionary

/-- A contact has responded. -/
structure Event where
  /-- The contact that has responded. -/
  contact : ContactId
  /-- The introduction it responded to. -/
  session : SessionId
  /-- Names the response. -/
  message : MessageId
  /-- When the response was sent, in milliseconds. -/
  time : UInt64
  /-- The contact as an author. -/
  author : AuthorId
  /-- The name of the contact it is being introduced to. -/
  name : String
  /-- Whether it accepts. -/
  accept : Bool
  deriving DecidableEq

/-- What a session answers to an input. -/
structure Update where
  /-- The session afterwards. -/
  session : Session
  /-- Messages to send, in order. -/
  envelopes : List Envelope := []
  /-- Events to publish, in order. -/
  events : List Event := []
  /-- Whether the message that caused the update can be deleted. -/
  deletesMessage : Bool := false
  /-- Whether the session can be deleted. -/
  deletesSession : Bool := false
  /-- What to tell the operator. -/
  notices : List Notice := []

/-- Whether an update sends nothing and publishes nothing. -/
def Update.isSilent (u : Update) : Bool := u.envelopes.isEmpty && u.events.isEmpty

end Introduction

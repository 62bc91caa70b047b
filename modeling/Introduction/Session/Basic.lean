import Introduction.Session.Error

/-!
# Sessions

A session is one introduction as its introducer keeps it: the two contacts, how far the
introduction has come and which responses have been recorded. The two contacts are told apart by
their channels, so a session whose contacts share one cannot be formed; that the channels differ is
part of the type.

A session is stored as a dictionary. Reading takes the first contact, the second contact, and then
the session's own fields; the first fault is the one reported.
-/

namespace Introduction

/-- A contact that is introduced. -/
structure Contact where
  /-- The contact in the introducer's own address book. -/
  id : ContactId
  /-- The contact as an author. -/
  author : AuthorId
  /-- The contact's name. -/
  name : String
  /-- The channel between the introducer and the contact. -/
  channel : ChannelId
  deriving DecidableEq

/-- One introduction, as its introducer keeps it. -/
structure Session where
  /-- Names the introduction. -/
  id : SessionId
  /-- How far it has come. -/
  state : Session.State
  /-- The first contact. -/
  first : Contact
  /-- The second contact. -/
  second : Contact
  /-- The recorded response of the first contact. -/
  response₁ : Option MessageId
  /-- The recorded response of the second contact. -/
  response₂ : Option MessageId
  /-- The contacts are told apart by their channels. -/
  channels_ne : first.channel ≠ second.channel
  deriving DecidableEq

namespace Session

/-- A session in which nothing has been sent, unless the contacts share a channel. -/
def start (id : SessionId) (first second : Contact) : Except Error Session :=
  if h : first.channel = second.channel then .error (.sharedChannel first.channel)
  else
    .ok { id, state := .prepareRequests, first, second, response₁ := none, response₂ := none,
          channels_ne := h }

/-- The contact on a side. -/
def contact (s : Session) : Side → Contact
  | .first => s.first
  | .second => s.second

/-- The side whose contact uses a channel. -/
def sideOf (s : Session) (channel : ChannelId) : Option Side :=
  if channel = s.first.channel then some .first
  else if channel = s.second.channel then some .second
  else none

/-- The recorded response of a side. -/
def response (s : Session) : Side → Option MessageId
  | .first => s.response₁
  | .second => s.response₂

/-- The session with the response of a side recorded. -/
def record (s : Session) (message : MessageId) : Side → Session
  | .first => { s with response₁ := some message }
  | .second => { s with response₂ := some message }

/-- The session in another state. -/
def enter (s : Session) (state : State) : Session := { s with state }

/-- Whether the session introduces the contacts on two channels to each other, in either order. -/
def introduces (s : Session) (a b : ChannelId) : Bool :=
  (s.first.channel = a && s.second.channel = b) || (s.first.channel = b && s.second.channel = a)

/-- Whether the introduction was given up. -/
def isAborted (s : Session) : Bool := s.state = .aborted

/-- Whether the introduction goes on. -/
def isLive (s : Session) : Bool := !s.state.isTerminal

@[simp] theorem sideOf_contact (s : Session) (side : Side) :
    s.sideOf (s.contact side).channel = some side := by
  cases side with
  | first => simp [sideOf, contact]
  | second => simp [sideOf, contact, s.channels_ne.symm]

/-! ### Dictionary form -/

/-- Reads the contact of a side. -/
def readContact (d : Dictionary) (side : Side) : Except WireError Contact := do
  let number ← d.getInt (Key.contactOf side)
  if number.toInt < 0 ∨ 2 ^ 32 ≤ number.toInt then
    throw (.integerOutOfRange (Key.contactOf side) number)
  let author ← d.getId (Key.authorOf side)
  let name ← d.getString (Key.nameOf side)
  let channel ← d.getId (Key.channelOf side)
  return ⟨⟨UInt32.ofNat number.toInt.toNat⟩, author, name, channel⟩

/-- Adds the contact of a side. -/
def writeContact (d : Dictionary) (contact : Contact) (side : Side) : Dictionary :=
  d.insert (Key.channelOf side) (.raw contact.channel.bytes)
    |>.insert (Key.nameOf side) (.string contact.name)
    |>.insert (Key.contactOf side) (.ofUInt32 contact.id.number)
    |>.insert (Key.authorOf side) (.raw contact.author.bytes)

/-- Reads a session. -/
def ofDictionary (d : Dictionary) : Except WireError Session := do
  let first ← readContact d .first
  let second ← readContact d .second
  if h : first.channel = second.channel then throw (.undecodable .equalChannels)
  else
    let id ← d.getId Key.session
    let state ← State.ofInt (← d.getInt Key.state)
    let response₁ ← d.getId? (Key.responseOf .first)
    let response₂ ← d.getId? (Key.responseOf .second)
    return { id, state, first, second, response₁, response₂, channels_ne := h }

/-- The stored form of a session. -/
def toDictionary (s : Session) : Dictionary :=
  let d := Dictionary.empty
    |>.insert Key.session (.raw s.id.bytes)
    |>.insert Key.state (.int s.state.toInt)
  writeContact (writeContact d s.first .first) s.second .second
    |>.insertSome (Key.responseOf .first) (s.response₁.map (.raw ·.bytes))
    |>.insertSome (Key.responseOf .second) (s.response₂.map (.raw ·.bytes))

end Session

end Introduction

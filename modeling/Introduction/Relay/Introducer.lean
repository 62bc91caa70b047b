import Introduction.Relay.Basic

/-!
# The introducer

An introducer starts introductions over a relay. It draws the identifier of every new session from
a sequence, and refuses to introduce two contacts while a session that goes on introduces them
already, in either order.

Starting falls into two parts with the drawing between them: `Relay.ensureFree`, which refuses, and
`Relay.introduceAs`, which starts the session under a given identifier.
-/

namespace Introduction

namespace Relay

/-- A notice of the introducer. -/
def introducerNotice (level : Level) (text : String) (fields : List (String × FieldValue)) :
    Notice :=
  ⟨level, .introducer, text, fields⟩

/-- The first stored session that goes on and introduces the contacts on two channels. -/
def liveSessionFor (a b : ChannelId) : Relaying (Option SessionId) := do
  return ((← sessions).find? fun s => s.isLive && s.introduces a b).map (·.id)

/-- Whether the contacts on two channels can be introduced now. -/
def canIntroduce (a b : ChannelId) : Relaying Bool := do
  return (← liveSessionFor a b).isNone

/-- Refuses to introduce two contacts who are being introduced. -/
def ensureFree (first second : Contact) : Relaying Unit := do
  match ← liveSessionFor first.channel second.channel with
  | none => return ()
  | some existing =>
    tell (introducerNotice .warn "refusing duplicate introduction"
      [("existing", .plain existing.short), ("first", .plain first.id.text),
        ("second", .plain second.id.text)])
    throw (.alreadyIntroducing existing)

/-- Introduces two contacts in a session with the given identifier. -/
def introduceAs (id : SessionId) (first second : Contact) (publicKey₁ publicKey₂ : Bytes)
    (note : Option String) : Relaying SessionId := do
  tell (introducerNotice .info "introducing"
    [("session", .plain id.short), ("first", .plain first.id.text),
      ("second", .plain second.id.text)])
  match Session.start id first second with
  | .error e => throw (.session e)
  | .ok s =>
    let _ ← create s (.request publicKey₁ publicKey₂ note)
    return id

end Relay

/-- A relay with a sequence of identifiers for new sessions. -/
structure Introducer where
  /-- The relay. -/
  relay : Relay
  /-- The identifiers, in the order in which they are drawn. -/
  ids : Nat → SessionId
  /-- How many have been drawn. -/
  drawn : Nat := 0

namespace Introducer

/-- A call of an introducer: a result or an error, and the introducer after it. -/
abbrev Introducing (α : Type) : Type := EStateM Relay.Error Introducer α

/-- Carries out a call of the relay. -/
def onRelay {α : Type} (call : Relaying α) : Introducing α :=
  fun i =>
    match call i.relay with
    | .ok x relay => .ok x { i with relay }
    | .error e relay => .error e { i with relay }

/-- Draws an identifier. -/
def draw : Introducing SessionId :=
  fun i => .ok (i.ids i.drawn) { i with drawn := i.drawn + 1 }

/-- Introduces two contacts to each other. -/
def introduce (first second : Contact) (publicKey₁ publicKey₂ : Bytes) (note : Option String) :
    Introducing SessionId := do
  onRelay (Relay.ensureFree first second)
  let id ← draw
  onRelay (Relay.introduceAs id first second publicKey₁ publicKey₂ note)

/-- Whether the contacts on two channels can be introduced now. -/
def canIntroduce (a b : ChannelId) : Introducing Bool := onRelay (Relay.canIntroduce a b)

/-- Gives an introduction up. -/
def abort (id : SessionId) : Introducing Session := onRelay (Relay.perform id .abort)

/-- Applies a local action in dictionary form. -/
def perform (id : SessionId) (action : Dictionary) : Introducing Session :=
  match Session.LocalAction.ofDictionary action with
  | .error e => throw (.session e)
  | .ok action => onRelay (Relay.perform id action)

/-- Applies a message received from a contact. -/
def receive (message : Dictionary) : Introducing Session := onRelay (Relay.receive message)

/-- Decodes and applies a message received from a contact. -/
def receiveBytes (bytes : Bytes) : Introducing Session := onRelay (Relay.receiveBytes bytes)

/-- Takes note that a message reached the transport. -/
def delivered (message : Dictionary) : Introducing Session := onRelay (Relay.delivered message)

/-- The session stored under an identifier. -/
def session? (id : SessionId) : Introducing (Option Session) := onRelay (Relay.session? id)

end Introducer

end Introduction

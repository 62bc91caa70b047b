import Introduction.Message.Basic
import Introduction.Notice
import Introduction.Session.Basic
import Introduction.Simulation.Choice

/-!
# Contacts that follow a script

A participant plays one contact: it answers the first request as its script says, acknowledges once
it has both answered and seen the other contact's answer, and stops when it is told that the
introduction is given up. What is malformed, repeated or too late it counts and ignores.
-/

namespace Introduction.Simulation

/-- How a participant behaves. -/
structure Script where
  /-- The answer it gives. -/
  accept : Bool
  /-- Whether it gives no answer at all. -/
  silent : Bool
  deriving DecidableEq, Repr

namespace Script

/-- Accepts the introduction. -/
def accepting : Script := ⟨true, false⟩

/-- Declines the introduction. -/
def declining : Script := ⟨false, false⟩

/-- Does not answer. -/
def mute : Script := ⟨false, true⟩

end Script

/-- A contact that follows a script. -/
structure Participant where
  /-- The contact, as the introducer knows it. -/
  contact : Contact
  /-- How it behaves. -/
  script : Script
  /-- The request it was sent. -/
  request : Option Message.Request := none
  /-- The response it gave. -/
  response : Option MessageId := none
  /-- The other contact's answer. -/
  otherAnswer : Option Bool := none
  /-- Whether it has acknowledged. -/
  acked : Bool := false
  /-- How many acks it was sent. -/
  acksReceived : Nat := 0
  /-- Whether it was told that the introduction is given up. -/
  aborted : Bool := false
  /-- How many messages it ignored. -/
  ignored : Nat := 0
  deriving DecidableEq

namespace Participant

variable {σ : Type} [Choice σ]

/-- A participant with an author and a channel that are drawn, in this order. -/
def create (id : ContactId) (name : String) (script : Script) (source : σ) : Participant × σ :=
  let (author, source) := Choice.identifier source
  let (channel, source) := Choice.identifier source
  ({ contact := ⟨id, author, name, channel⟩, script }, source)

/-- What a participant makes of a message. -/
structure Reaction (σ : Type) where
  /-- The participant afterwards. -/
  participant : Participant
  /-- The source of choices afterwards. -/
  source : σ
  /-- Messages to the introducer, in order. -/
  replies : List Dictionary := []
  /-- What to tell the operator. -/
  notices : List Notice := []

/-- The participant with one more message ignored. -/
def ignore (p : Participant) : Participant := { p with ignored := p.ignored + 1 }

/-- A notice of a participant. -/
def notice (p : Participant) (level : Level) (text : String)
    (fields : List (String × FieldValue)) : Notice :=
  ⟨level, .contact, text, ("contact", .plain p.contact.id.text) :: fields⟩

/-- Acknowledges, once there is a response of either contact and no ack yet. -/
def acknowledge (p : Participant) (source : σ) : Reaction σ :=
  match p.acked, p.response, p.otherAnswer, p.request with
  | false, some _, some _, some request =>
    let (message, source) := Choice.identifier source
    { participant := { p with acked := true }
      source
      replies := [Message.Ack.toDictionary ⟨request.session, p.contact.channel, message⟩] }
  | _, _, _, _ => { participant := p, source }

/-- Takes a request. -/
def onRequest (p : Participant) (now : UInt64) (request : Message.Request) (source : σ) :
    Reaction σ :=
  if p.request.isSome then { participant := p.ignore, source }
  else
    let p := { p with request := some request }
    if p.script.silent then
      { participant := p, source, notices := [p.notice .debug "staying silent" []] }
    else
      let (message, source) := Choice.identifier source
      let response : Message.Response :=
        ⟨request.session, p.contact.channel, message, now, p.script.accept⟩
      let reaction := acknowledge { p with response := some message } source
      { reaction with replies := response.toDictionary :: reaction.replies }

/-- Takes a message from the introducer at a given time. -/
def handle (p : Participant) (now : UInt64) (message : Dictionary) (source : σ) : Reaction σ :=
  match Message.ofDictionary message with
  | .error e =>
    { participant := p.ignore
      source
      notices := [p.notice .warn "dropping malformed message" [("error", .plain e.message)]] }
  | .ok message =>
    if p.aborted then { participant := p.ignore, source }
    else
      match message with
      | .request request => p.onRequest now request source
      | .response response =>
        acknowledge
          (if p.otherAnswer.isNone then { p with otherAnswer := some response.accept }
            else p.ignore)
          source
      | .ack _ => { participant := { p with acksReceived := p.acksReceived + 1 }, source }
      | .abort _ =>
        { participant := { p with aborted := true }
          source
          notices := [p.notice .debug "introduction aborted" []] }

end Participant

end Introduction.Simulation

import Introduction.Session.LocalAction
import Introduction.Session.Update

/-!
# The rules of an introduction

How a session answers the introducer's own actions, the messages of the contacts and the news that
a message was delivered.

* The introducer sends either contact the name and the public key of the other.
* A response is passed on to the other contact, recorded, and published as an event; an ack is
  passed on. What is passed on is the message itself with the other contact's channel in place of
  the sender's, so entries that the introducer knows nothing about survive.
* Once both acks have been passed on a response is recorded if none was, and published, and not
  passed on any more.
* Whatever is malformed, belongs to another session or channel, or comes when it is not expected
  aborts the introduction, and both contacts are told once. An aborted session ignores everything.

A message is checked in stages: its header, then whether the transition table has a place for its
kind, then its content, then the table again for what the content says.
-/

namespace Introduction.Session

/-! ### Notices -/

/-- A notice about a session. -/
def notice (s : Session) (level : Level) (text : String) (fields : List (String × FieldValue)) :
    Notice :=
  ⟨level, .session, text, ("session", .plain s.id.short) :: fields⟩

/-- The answer that leaves the session as it is and says so. -/
def unchanged (s : Session) (notice : Notice) : Update := { session := s, notices := [notice] }

/-! ### Starting and giving up -/

/-- The request that introduces the other contact to the contact on a side. -/
def requestTo (s : Session) (side : Side) (otherKey : Bytes) (note : Option String) :
    Message.Request :=
  ⟨s.id, (s.contact side).channel, (s.contact side.other).name, otherKey, note⟩

/-- A message for the contact on a side. -/
def envelopeTo (s : Session) (side : Side) (message : Dictionary) : Envelope :=
  ⟨(s.contact side).channel, message⟩

/-- Sends either contact the name and key of the other. A session that has started already is left
as it is. -/
def sendRequests (s : Session) (publicKey₁ publicKey₂ : Bytes) (note : Option String) : Update :=
  match s.state.next .localRequest with
  | .aborted =>
    s.unchanged <| s.notice .warn "ignoring introduction request for a session that already started"
      [("state", .quoted s.state.name)]
  | next =>
    { session := s.enter next
      envelopes :=
        [s.envelopeTo .first (s.requestTo .first publicKey₂ note).toDictionary,
          s.envelopeTo .second (s.requestTo .second publicKey₁ note).toDictionary]
      notices :=
        [s.notice .info "sending introduction requests"
          [("first", .plain s.first.id.text), ("second", .plain s.second.id.text)]] }

/-- The message that tells the contact on a side that the introduction is given up. -/
def abortTo (s : Session) (side : Side) : Message.Abort := ⟨s.id, (s.contact side).channel⟩

/-- Gives the introduction up and tells both contacts. -/
def abort (s : Session) (reason : String) : Update :=
  { session := s.enter .aborted
    envelopes :=
      [s.envelopeTo .first (s.abortTo .first).toDictionary,
        s.envelopeTo .second (s.abortTo .second).toDictionary]
    notices :=
      [s.notice .warn "aborting introduction"
        [("state", .quoted s.state.name), ("reason", .quoted reason)]] }

/-- Gives the introduction up unless that has happened already. -/
def reject (s : Session) (reason : String) : Update :=
  if s.state = .aborted then
    s.unchanged (s.notice .debug "ignoring input for aborted session" [("reason", .quoted reason)])
  else s.abort reason

/-- Gives the introduction up over a message that cannot be read. -/
def rejectMalformed (s : Session) (cause : WireError) : Update :=
  s.reject ("malformed message: " ++ cause.message)

/-! ### Passing messages on -/

/-- The message of a contact, made out to the other contact. -/
def forward (s : Session) (sender : Side) (message : Dictionary) : Envelope :=
  s.envelopeTo sender.other
    (message.insert Key.channel (.raw (s.contact sender.other).channel.bytes))

/-- The event that a contact has responded. -/
def responseEvent (s : Session) (sender : Side) (response : Message.Response) : Event :=
  { contact := (s.contact sender).id
    session := s.id
    message := response.message
    time := response.time
    author := (s.contact sender).author
    name := (s.contact sender.other).name
    accept := response.accept }

/-- Takes a response while one is expected. -/
def onResponse (s : Session) (sender : Side) (message : Dictionary) : Update :=
  match Message.Response.ofDictionary message with
  | .error e => s.rejectMalformed e
  | .ok response =>
    let action := Action.answer sender response.accept
    match s.state.next action with
    | .aborted => s.reject action.name
    | next =>
      { session := (s.enter next).record response.message sender
        envelopes := [s.forward sender message]
        events := [s.responseEvent sender response]
        notices :=
          [s.notice .debug "relaying response"
            [("from", .quoted sender.name), ("accept", .flag response.accept),
              ("state", .quoted s.state.name), ("next", .quoted next.name)]] }

/-- Takes an ack, which leads to the state `next`. -/
def onAck (s : Session) (sender : Side) (next : State) (message : Dictionary) : Update :=
  match Message.Ack.ofDictionary message with
  | .error e => s.rejectMalformed e
  | .ok _ =>
    { session := s.enter next
      envelopes := [s.forward sender message]
      notices :=
        [s.notice .debug "relaying ack"
          [("from", .quoted sender.name), ("state", .quoted s.state.name),
            ("next", .quoted next.name)]] }

/-- Takes a response after both acks. -/
def onLateResponse (s : Session) (sender : Side) (message : Dictionary) : Update :=
  match Message.Response.ofDictionary message with
  | .error e => s.rejectMalformed e
  | .ok response =>
    { session := if (s.response sender).isNone then s.record response.message sender else s
      events := [s.responseEvent sender response]
      notices :=
        [s.notice .debug "response after finish"
          [("from", .quoted sender.name), ("accept", .flag response.accept)]] }

/-! ### Inputs -/

/-- Answers an action of the introducer. -/
def perform (s : Session) : LocalAction → Except Error Update
  | .request publicKey₁ publicKey₂ note => .ok (s.sendRequests publicKey₁ publicKey₂ note)
  | .abort =>
    if s.state = .aborted then .ok (s.unchanged (s.notice .debug "session already aborted" []))
    else .ok (s.abort Action.localAbort.name)

/-- Answers a message from one of the contacts. -/
def receive (s : Session) (message : Dictionary) : Except Error Update :=
  match Message.Header.ofDictionary message with
  | .error e => .ok (s.rejectMalformed e)
  | .ok header =>
    if header.session ≠ s.id then .ok (s.reject "message for another session")
    else
      match s.sideOf header.channel with
      | none => .ok (s.reject "message on unknown channel")
      | some sender =>
        let action := Action.ofMessage header.kind sender
        let next := s.state.next action
        if next = .aborted then .ok (s.reject action.name)
        else if header.kind = .response ∧ s.state.awaitsResponse then
          .ok (s.onResponse sender message)
        else if header.kind = .ack ∧ s.state.awaitsAck then
          .ok (s.onAck sender next message)
        else if header.kind = .response ∧ s.state = .finished then
          .ok (s.onLateResponse sender message)
        else .error (.inconsistentState s.state action)

/-- Answers the news that a message reached the transport. -/
def delivered (s : Session) (_message : Dictionary) : Except Error Update :=
  .ok { session := s }

end Introduction.Session

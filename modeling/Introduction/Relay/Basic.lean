import Introduction.Relay.Outbox
import Introduction.Relay.Store
import Introduction.Session.Rules

/-!
# The relay

A relay carries out what sessions answer. Every call takes the same way: the session is read from
the store, it answers the input, the session it becomes is stored or deleted, the messages are
handed to the transport and the events are published.

```text
read ──> answer ──> store or delete ──> route ──> publish
```

When a message cannot be handed over, the store gets back what it held before the call, and no event
is published; the input can then be given to the relay again as if for the first time. Messages of
the same answer that were handed over before are not taken back.

A call either succeeds or stops with an error, and in both cases leaves a relay behind, which the
result type `Relaying` records.
-/

namespace Introduction

namespace Relay

/-- What becomes of a session that is given up. -/
inductive Retention where
  /-- It stays in the store. -/
  | keepAll
  /-- It is deleted. -/
  | dropAborted
  deriving DecidableEq, Repr

/-- How a relay is set up. -/
structure Config where
  /-- What becomes of a session that is given up. -/
  retention : Retention := .keepAll
  /-- The most bytes of an incoming message. -/
  maxMessageSize : Nat := Dictionary.defaultLimit
  deriving DecidableEq, Repr

/-- Why a call stops. -/
inductive Error where
  /-- The session refuses the input, or cannot be read back. -/
  | session (cause : Session.Error)
  /-- The input names no session, or is no message. -/
  | wire (cause : WireError)
  /-- The store fails. -/
  | store (cause : StoreError)
  /-- A message is not handed over. -/
  | route (cause : RouteError)
  /-- Nothing is stored for the session. -/
  | unknownSession (id : SessionId)
  /-- Something is stored for the session already. -/
  | duplicateSession (id : SessionId)
  /-- A session that goes on introduces the same contacts. -/
  | alreadyIntroducing (id : SessionId)
  deriving DecidableEq

/-- The text of an error. -/
def Error.message : Error → String
  | .session cause => "engine error: " ++ cause.message
  | .wire cause => "protocol error: " ++ cause.message
  | .store cause => "store error: " ++ cause.message
  | .route cause => "router error: " ++ cause.message
  | .unknownSession id => "unknown session " ++ id.toHex
  | .duplicateSession id => "session " ++ id.toHex ++ " already exists"
  | .alreadyIntroducing id => "contacts are already being introduced in session " ++ id.toHex

end Relay

/-- A store, a transport and the events published so far, with how the relay is set up. -/
structure Relay where
  /-- How the relay is set up. -/
  config : Relay.Config := {}
  /-- The sessions. -/
  store : Relay.Store := {}
  /-- The transport. -/
  outbox : Relay.Outbox := {}
  /-- Events published, in order. -/
  events : List Event := []
  /-- How many inputs were given to sessions. -/
  answers : Nat := 0
  /-- What is made of the `n`-th answer before it is carried out; ordinarily nothing. -/
  amend : Nat → Update → Update := fun _ update => update
  /-- What was told to the operator, in order. -/
  notices : List Notice := []

/-- A call of a relay: a result or an error, and the relay after it. -/
abbrev Relaying (α : Type) : Type := EStateM Relay.Error Relay α

namespace Relay

/-! ### Single effects -/

/-- Tells the operator something. -/
def tell (notice : Notice) : Relaying Unit :=
  modify fun r => { r with notices := r.notices ++ [notice] }

/-- A notice about a session. -/
def notice (level : Level) (text : String) (id : SessionId) (fields : List (String × FieldValue)) :
    Notice :=
  ⟨level, .relay, text, ("session", .plain id.short) :: fields⟩

/-- Carries out an operation of the store. -/
def onStore {α : Type} (operation : Store → Except StoreError α × Store) : Relaying α :=
  fun r =>
    match operation r.store with
    | (.ok x, store) => .ok x { r with store }
    | (.error e, store) => .error (.store e) { r with store }

/-- Hands a message to the transport, and gives the refusal if it is refused. -/
def route (envelope : Envelope) : Relaying (Option RouteError) :=
  fun r =>
    match r.outbox.route envelope with
    | (.ok (), outbox) => .ok none { r with outbox }
    | (.error e, outbox) => .ok (some e) { r with outbox }

/-- Gives an input to a session. -/
def answer (update : Except Session.Error Update) : Relaying Update :=
  fun r =>
    let number := r.answers + 1
    match update with
    | .error e => .error (.session e) { r with answers := number }
    | .ok update =>
      .ok (r.amend number update)
        { r with answers := number, notices := r.notices ++ update.notices }

/-! ### Reading sessions -/

/-- The session stored under an identifier. -/
def session? (id : SessionId) : Relaying (Option Session) := do
  match ← onStore (·.get id) with
  | none => return none
  | some d =>
    match Session.ofDictionary d with
    | .ok s => return some s
    | .error e => throw (.session (.corrupt e))

/-- The sessions stored under identifiers, in order, as far as there are any. -/
def sessionsOf : List SessionId → Relaying (List Session)
  | [] => return []
  | id :: ids => do
    let s ← session? id
    let rest ← sessionsOf ids
    return s.toList ++ rest

/-- Every stored session. -/
def sessions : Relaying (List Session) := do
  sessionsOf (← onStore (·.list))

/-- The session that has to be stored under an identifier. -/
def load (id : SessionId) : Relaying Session := do
  match ← session? id with
  | some s => return s
  | none =>
    tell (notice .warn "no such session" id [])
    throw (.unknownSession id)

/-! ### Carrying out an answer -/

/-- Gives the store back what it held for a session. -/
def restore (id : SessionId) : Option Dictionary → Relaying Unit
  | some d => onStore (·.put id d)
  | none => onStore (·.delete id)

/-- Hands over messages. At the first refusal the store gets back what it held for the session. -/
def routeAll (id : SessionId) (previous : Option Dictionary) : List Envelope → Relaying Unit
  | [] => return ()
  | envelope :: envelopes => do
    match ← route envelope with
    | none => routeAll id previous envelopes
    | some refusal =>
      tell (notice .warn "routing failed, restoring session" id
        [("channel", .plain envelope.channel.short)])
      restore id previous
      throw (.route refusal)

/-- Whether an answer takes its session out of the store. -/
def Config.drops (config : Config) (update : Update) : Bool :=
  update.deletesSession || (config.retention = .dropAborted && update.session.isAborted)

/-- Carries out an answer: stores or deletes the session, hands over the messages and publishes the
events. -/
def apply (id : SessionId) (update : Update) : Relaying Session := do
  let previous ← onStore (·.get id)
  if (← get).config.drops update then
    tell (notice .debug "deleting session" id [])
    onStore (·.delete id)
  else
    onStore (·.put id update.session.toDictionary)
  tell (notice .trace "applying update" id
    [("messages", .count update.envelopes.length), ("events", .count update.events.length),
      ("delete_message", .flag update.deletesMessage)])
  routeAll id previous update.envelopes
  modify fun r => { r with events := r.events ++ update.events }
  return update.session

/-! ### Calls -/

/-- Stores a new session once it has answered its first local action. -/
def create (s : Session) (action : Session.LocalAction) : Relaying Session := do
  if (← onStore (·.get s.id)).isSome then throw (.duplicateSession s.id)
  tell (notice .debug "creating session" s.id [])
  apply s.id (← answer (s.perform action))

/-- Applies a local action to a stored session. -/
def perform (id : SessionId) (action : Session.LocalAction) : Relaying Session := do
  let s ← load id
  apply id (← answer (s.perform action))

/-- The session that a message names. -/
def sessionOf (message : Dictionary) : Except WireError SessionId := message.getId Key.session

/-- The result of a reading, or its error. -/
def ofWire {α : Type} : Except WireError α → Relaying α
  | .ok x => return x
  | .error e => throw (.wire e)

/-- Applies an incoming message to the session it names. -/
def receive (message : Dictionary) : Relaying Session := do
  let id ← ofWire (sessionOf message)
  let s ← load id
  apply id (← answer (s.receive message))

/-- Decodes an incoming message and applies it. -/
def receiveBytes (bytes : Bytes) : Relaying Session := do
  receive (← ofWire (Dictionary.decode bytes (← get).config.maxMessageSize))

/-- Takes note that an outgoing message reached the transport. -/
def delivered (message : Dictionary) : Relaying Session := do
  let id ← ofWire (sessionOf message)
  let s ← load id
  apply id (← answer (s.delivered message))

/-- Removes the recorded messages and events and gives them. -/
def drain : Relaying (List Envelope × List Event) :=
  fun r =>
    let (sent, outbox) := r.outbox.drain
    .ok (sent, r.events) { r with outbox, events := [] }

end Relay

end Introduction

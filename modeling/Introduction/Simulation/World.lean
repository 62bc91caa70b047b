import Introduction.Relay.Introducer
import Introduction.Simulation.Clock
import Introduction.Simulation.Network
import Introduction.Simulation.Participant

/-!
# The simulated world

A world is an introducer, two contacts and the network between them, in virtual time. All choices
come from one source, in the order in which they arise. A step delivers one message: to a contact,
whose replies go back to the network, after the introducer has taken note of the delivery; or to the
introducer, whose messages go out to the network.
-/

namespace Introduction.Simulation

/-- An introducer, two contacts and the network between them. -/
structure World (σ : Type) where
  /-- Where choices come from. -/
  source : σ
  /-- The time, in milliseconds. -/
  now : UInt64 := epoch
  /-- The network. -/
  network : Network := {}
  /-- The introducer's relay. -/
  relay : Relay := {}
  /-- The first contact. -/
  first : Participant
  /-- The second contact. -/
  second : Participant
  /-- The introduction that was started last. -/
  introduction : Option SessionId := none
  /-- How many messages the introducer was delivered. -/
  toIntroducer : Nat := 0
  /-- How many messages the contacts were delivered. -/
  toContacts : Nat := 0
  /-- Errors of the introducer over deliveries, in order. -/
  errors : List Relay.Error := []
  /-- What was told to the operator, in order. -/
  notices : List Notice := []

namespace World

variable {σ : Type}

/-- The time that passes with every delivery, in milliseconds. -/
def stepTime : UInt64 := 10

/-- Tells the operator something. -/
def tell (w : World σ) (notices : List Notice) : World σ :=
  { w with notices := w.notices ++ notices }

/-- A notice of the world. -/
def notice (text : String) (fields : List (String × FieldValue)) : Notice :=
  ⟨.debug, .world, text, fields⟩

/-- The world after a call of the introducer: what the introducer sent is on the network, and what
it told is passed on. -/
def absorb (w : World σ) (relay : Relay) : World σ :=
  { w with
    relay := { relay with outbox := relay.outbox.drain.2, notices := [] }
    network := relay.outbox.drain.1.foldl Network.route w.network
    notices := w.notices ++ relay.notices }

/-- Carries out a call of the introducer. -/
def call {α : Type} (w : World σ) (action : Relaying α) : Except Relay.Error α × World σ :=
  match action w.relay with
  | .ok x relay => (.ok x, w.absorb relay)
  | .error e relay => (.error e, w.absorb relay)

/-- The contact on a side. -/
def participant (w : World σ) : Side → Participant
  | .first => w.first
  | .second => w.second

/-- The world with another contact on a side. -/
def setParticipant (w : World σ) (p : Participant) : Side → World σ
  | .first => { w with first := p }
  | .second => { w with second := p }

/-- The side whose contact uses a channel. -/
def sideOn (w : World σ) (channel : ChannelId) : Option Side :=
  if channel = w.first.contact.channel then some .first
  else if channel = w.second.contact.channel then some .second
  else none

/-- Gives the introduction up, if one was started. -/
def abort (w : World σ) : Except Relay.Error Unit × World σ :=
  match w.introduction with
  | none => (.ok (), w)
  | some id =>
    match w.call (Relay.perform id .abort) with
    | (.ok _, w) => (.ok (), w)
    | (.error e, w) => (.error e, w)

/-- Delivers a message to the introducer. -/
def deliverToIntroducer (w : World σ) (d : Delivery) : World σ :=
  match { w with toIntroducer := w.toIntroducer + 1 }.call (Relay.receive d.message) with
  | (.ok _, w) => w
  | (.error e, w) =>
    { w with errors := w.errors ++ [e] }.tell
      [notice "introducer rejected delivery"
        [("error", .plain e.message), ("duplicate", .flag d.isCopy)]]

/-- Lets the introducer take note that a message reached a contact. -/
def noteDelivery (w : World σ) (d : Delivery) : World σ :=
  match w.call (Relay.delivered d.message) with
  | (.ok _, w) => w
  | (.error e, w) => { w with errors := w.errors ++ [e] }

variable [Choice σ]

/-- Draws a public key for either contact and introduces them to each other. -/
def introduce (w : World σ) (note : Option String) : Except Relay.Error SessionId × World σ :=
  let (publicKey₁, source) := Choice.publicKey w.source
  let (publicKey₂, source) := Choice.publicKey source
  let (first, second) := (w.first.contact, w.second.contact)
  match { w with source }.call (Relay.ensureFree first second) with
  | (.error e, w) => (.error e, w)
  | (.ok (), w) =>
    let (id, source) := Choice.identifier w.source
    match { w with source }.call
        (Relay.introduceAs id first second publicKey₁ publicKey₂ note) with
    | (.error e, w) => (.error e, w)
    | (.ok id, w) => (.ok id, { w with introduction := some id })

/-- Delivers a message to the contact on its channel. -/
def deliverToContact (w : World σ) (d : Delivery) : World σ :=
  let w := w.noteDelivery d
  match w.sideOn d.channel with
  | none => w.tell [notice "no contact on channel" [("channel", .plain d.channel.short)]]
  | some side =>
    let p := w.participant side
    let reaction := p.handle w.now d.message w.source
    { w with
      source := reaction.source
      toContacts := w.toContacts + 1
      network := reaction.replies.foldl (·.send p.contact.channel ·) w.network
      notices := w.notices ++ reaction.notices }.setParticipant reaction.participant side

/-- Delivers a message that was taken off the network. -/
def deliver (w : World σ) (d : Delivery) : World σ :=
  let w := { w with now := advance w.now stepTime }.tell [Network.notice d]
  match d.direction with
  | .toContact => w.deliverToContact d
  | .toIntroducer => w.deliverToIntroducer d

/-- Delivers one message, and says whether one was waiting. -/
def step (w : World σ) : Bool × World σ :=
  match w.network.step w.source with
  | (none, network, source) => (false, { w with network, source })
  | (some d, network, source) => (true, { w with network, source }.deliver d)

/-- Delivers messages until none is waiting, at most `limit`, and gives their number. -/
def run : (limit : Nat) → World σ → Nat × World σ
  | 0, w => (0, w)
  | limit + 1, w =>
    match w.step with
    | (false, w) => (0, w)
    | (true, w) =>
      let (n, w) := run limit w
      (n + 1, w)

omit [Choice σ]

/-! ### Looking at a world -/

/-- The introduction that was started last, if it is stored. -/
def session? (w : World σ) : Option Session :=
  match w.introduction with
  | none => none
  | some id =>
    match Relay.session? id w.relay with
    | .ok s _ => s
    | .error _ _ => none

/-- The state of the introduction that was started last, if it is stored. -/
def state? (w : World σ) : Option Session.State := w.session?.map (·.state)

/-- The events that were published. -/
def events (w : World σ) : List Event := w.relay.events

/-- Whether no message is waiting. -/
def isIdle (w : World σ) : Bool := w.network.isIdle

end World

end Introduction.Simulation

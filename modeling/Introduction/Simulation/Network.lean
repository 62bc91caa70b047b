import Introduction.Session.Update
import Introduction.Simulation.Rate

/-!
# The simulated network

Every channel has two queues, one for each direction. Within a queue the order of messages is kept;
which queue is served next is a choice. A delivered message may be put back at the end of its queue
as a copy. Copies are never copied again, so every run comes to an end.

`Network.take` and `Network.putBack` are the two parts of a delivery that leave nothing open;
`Network.step` makes the choices between them.
-/

namespace Introduction.Simulation

/-- Which way a message travels on its channel. -/
inductive Direction where
  /-- From the introducer to the contact. -/
  | toContact
  /-- From the contact to the introducer. -/
  | toIntroducer
  deriving DecidableEq, Repr

/-- The label of a direction in diagnostics. -/
def Direction.label : Direction → String
  | .toContact => "ToIntroducee"
  | .toIntroducer => "ToIntroducer"

/-- A message on its way. -/
structure Transit where
  /-- The message. -/
  message : Dictionary
  /-- Whether it is a copy of a message delivered before. -/
  isCopy : Bool

/-- The two queues of a channel. -/
structure Lane where
  /-- Messages to the contact, the next one first. -/
  toContact : List Transit := []
  /-- Messages to the introducer, the next one first. -/
  toIntroducer : List Transit := []

namespace Lane

/-- The queue in a direction. -/
def queue (l : Lane) : Direction → List Transit
  | .toContact => l.toContact
  | .toIntroducer => l.toIntroducer

/-- The lane with another queue in a direction. -/
def setQueue (l : Lane) (queue : List Transit) : Direction → Lane
  | .toContact => { l with toContact := queue }
  | .toIntroducer => { l with toIntroducer := queue }

/-- The directions in which messages are waiting. -/
def ready (l : Lane) : List Direction :=
  [Direction.toContact, .toIntroducer].filter fun d => !(l.queue d).isEmpty

end Lane

/-- A message taken off the network. -/
structure Delivery where
  /-- The channel it travelled on. -/
  channel : ChannelId
  /-- The direction it travelled in. -/
  direction : Direction
  /-- The message. -/
  message : Dictionary
  /-- Whether it is a copy of a message delivered before. -/
  isCopy : Bool

/-- The channels between the introducer and the contacts. -/
structure Network where
  /-- The queues of every channel that was used. -/
  lanes : OrderedMap ChannelId Lane := OrderedMap.empty
  /-- How often a delivered message is copied. -/
  duplication : Rate := .never
  /-- Whether the queue served next is a choice; otherwise it is the first one. -/
  reorders : Bool := true
  /-- How many messages were delivered. -/
  delivered : Nat := 0
  /-- How many copies were made. -/
  duplicated : Nat := 0

namespace Network

/-- The queues of a channel. -/
def lane (net : Network) (channel : ChannelId) : Lane := (net.lanes.get? channel).getD {}

/-- The queue of a channel in a direction. -/
def queue (net : Network) (channel : ChannelId) (direction : Direction) : List Transit :=
  (net.lane channel).queue direction

/-- The network with another queue for a channel in a direction. -/
def setQueue (net : Network) (channel : ChannelId) (direction : Direction)
    (queue : List Transit) : Network :=
  { net with lanes := net.lanes.insert channel ((net.lane channel).setQueue queue direction) }

/-- Puts a message at the end of a queue. -/
def enqueue (net : Network) (channel : ChannelId) (direction : Direction) (transit : Transit) :
    Network :=
  net.setQueue channel direction (net.queue channel direction ++ [transit])

/-- Sends a message to a contact. -/
def route (net : Network) (envelope : Envelope) : Network :=
  net.enqueue envelope.channel .toContact ⟨envelope.message, false⟩

/-- Sends a message to the introducer. -/
def send (net : Network) (channel : ChannelId) (message : Dictionary) : Network :=
  net.enqueue channel .toIntroducer ⟨message, false⟩

/-- The queues in which messages are waiting, by channel, those to the contact first. -/
def ready (net : Network) : List (ChannelId × Direction) :=
  net.lanes.toList.flatMap fun (channel, lane) => lane.ready.map (channel, ·)

/-- Whether no message is waiting. -/
def isIdle (net : Network) : Bool := net.ready.isEmpty

/-- Takes the next message off a queue. -/
def take (net : Network) (channel : ChannelId) (direction : Direction) :
    Option (Delivery × Network) :=
  match net.queue channel direction with
  | [] => none
  | transit :: rest =>
    some (⟨channel, direction, transit.message, transit.isCopy⟩,
      { net.setQueue channel direction rest with delivered := net.delivered + 1 })

/-- Puts a copy of a delivered message at the end of its queue. -/
def putBack (net : Network) (d : Delivery) : Network :=
  { net.enqueue d.channel d.direction ⟨d.message, true⟩ with duplicated := net.duplicated + 1 }

/-- The notice that a message is delivered. -/
def notice (d : Delivery) : Notice :=
  ⟨.trace, .network, "delivering",
    [("channel", .plain d.channel.short), ("direction", .plain d.direction.label),
      ("duplicate", .flag d.isCopy)]⟩

variable {σ : Type} [Choice σ]

/-- Chooses one of the queues in which messages are waiting. -/
def chooseQueue (net : Network) (source : σ) : Option (ChannelId × Direction) × σ :=
  let queues := net.ready
  if h : 0 < queues.length then
    if net.reorders then
      let (i, source) := Choice.pick queues.length h source
      (some queues[i], source)
    else (some queues[0], source)
  else (none, source)

/-- Chooses whether a delivered message is copied. -/
def chooseCopy (net : Network) (d : Delivery) (source : σ) : Bool × σ :=
  if d.isCopy then (false, source) else net.duplication.decide source

/-- Delivers one message, unless none is waiting. -/
def step (net : Network) (source : σ) : Option Delivery × Network × σ :=
  match net.chooseQueue source with
  | (none, source) => (none, net, source)
  | (some (channel, direction), source) =>
    match net.take channel direction with
    | none => (none, net, source)
    | some (d, net) =>
      let (copied, source) := net.chooseCopy d source
      (some d, if copied then net.putBack d else net, source)

end Network

end Introduction.Simulation

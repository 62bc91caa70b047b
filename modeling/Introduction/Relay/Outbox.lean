import Introduction.Session.Update

/-!
# Outgoing messages

An outbox records the messages handed to the transport, in order. Handing over may be refused: the
attempts are numbered from one, `refuses` says which of them fail, and a refused message is not
recorded.
-/

namespace Introduction.Relay

/-- The messages handed to the transport. -/
structure Outbox where
  /-- Messages that were handed over, in order. -/
  sent : List Envelope := []
  /-- How many messages were to be handed over. -/
  attempts : Nat := 0
  /-- Which attempts are refused, by number. -/
  refuses : Nat → Bool := fun _ => false

/-- A message was refused; it was the `number`-th. -/
structure RouteError where
  /-- The number of the attempt. -/
  number : Nat
  deriving DecidableEq, Repr

/-- The text of a refusal. -/
def RouteError.message (e : RouteError) : String := "route call " ++ toString e.number ++ " fails"

namespace Outbox

/-- Hands a message to the transport. -/
def route (o : Outbox) (envelope : Envelope) : Except RouteError Unit × Outbox :=
  let number := o.attempts + 1
  if o.refuses number then (.error ⟨number⟩, { o with attempts := number })
  else (.ok (), { o with attempts := number, sent := o.sent ++ [envelope] })

/-- The messages handed over for a channel, in order. -/
def forChannel (o : Outbox) (channel : ChannelId) : List Dictionary :=
  (o.sent.filter (·.channel = channel)).map (·.message)

/-- Removes the recorded messages and gives them. -/
def drain (o : Outbox) : List Envelope × Outbox := (o.sent, { o with sent := [] })

end Outbox

end Introduction.Relay

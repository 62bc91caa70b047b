import Introduction.Dictionary.Fields
import Introduction.Dictionary.Key

/-!
# States of an introduction

An introduction passes through nine states. The requests go out first; then both responses are
awaited, in either order; then both acks, in either order. What does not belong where it arrives
leads to the aborted state, which nothing leaves.

Inputs are classified as actions before they meet the transition table `State.next`. A response is
classified in two steps: by `Action.ofMessage` from its kind alone, where every response counts as
an acceptance, and by `Action.answer` once its content is read.
-/

namespace Introduction.Session

/-- The state of an introduction. -/
inductive State where
  /-- The requests have not been sent. -/
  | prepareRequests
  /-- Neither contact has responded. -/
  | awaitResponses
  /-- The other contact has responded, this one has not. -/
  | awaitResponse (side : Side)
  /-- Both contacts have responded and neither has acknowledged. -/
  | awaitAcks
  /-- The other contact has acknowledged, this one has not. -/
  | awaitAck (side : Side)
  /-- Both contacts have acknowledged. -/
  | finished
  /-- The introduction is given up. -/
  | aborted
  deriving DecidableEq, Repr

/-- An input, classified for the transition table. -/
inductive Action where
  /-- The introducer starts the introduction. -/
  | localRequest
  /-- The introducer gives it up. -/
  | localAbort
  /-- A contact sends a request, which only an introducer may. -/
  | remoteRequest
  /-- A contact responds. -/
  | remoteAnswer (side : Side) (accept : Bool)
  /-- A contact acknowledges the other's response. -/
  | remoteAck (side : Side)
  /-- A contact gives the introduction up. -/
  | remoteAbort
  deriving DecidableEq, Repr

namespace Action

/-- The action of a message from a side, by its kind alone. -/
def ofMessage (kind : Message.Kind) (side : Side) : Action :=
  match kind with
  | .request => .remoteRequest
  | .response => .remoteAnswer side true
  | .ack => .remoteAck side
  | .abort => .remoteAbort

/-- The action of a response whose content is known. -/
abbrev answer (side : Side) (accept : Bool) : Action := .remoteAnswer side accept

/-- The name of an action in log lines and error texts. -/
def name : Action → String
  | .localRequest => "LOCAL_REQUEST"
  | .localAbort => "LOCAL_ABORT"
  | .remoteRequest => "REMOTE_REQUEST"
  | .remoteAnswer .first true => "REMOTE_ACCEPT_1"
  | .remoteAnswer .second true => "REMOTE_ACCEPT_2"
  | .remoteAnswer .first false => "REMOTE_DECLINE_1"
  | .remoteAnswer .second false => "REMOTE_DECLINE_2"
  | .remoteAck .first => "REMOTE_ACK_1"
  | .remoteAck .second => "REMOTE_ACK_2"
  | .remoteAbort => "REMOTE_ABORT"

/-- Every action. -/
def all : List Action :=
  [.localRequest, .localAbort, .remoteRequest, .remoteAnswer .first true,
    .remoteAnswer .second true, .remoteAnswer .first false, .remoteAnswer .second false,
    .remoteAck .first, .remoteAck .second, .remoteAbort]

end Action

namespace State

/-- Every state, in the order of the numbers they are stored under. -/
def all : List State :=
  [.prepareRequests, .awaitResponses, .awaitResponse .first, .awaitResponse .second, .awaitAcks,
    .awaitAck .first, .awaitAck .second, .finished, .aborted]

/-- The number that a state is stored under. -/
def number : State → Nat
  | .prepareRequests => 0
  | .awaitResponses => 1
  | .awaitResponse .first => 2
  | .awaitResponse .second => 3
  | .awaitAcks => 4
  | .awaitAck .first => 5
  | .awaitAck .second => 6
  | .finished => 7
  | .aborted => 8

/-- The stored form of a state. -/
def toInt (s : State) : Int64 := Int64.ofNat s.number

/-- The state with a stored form. -/
def ofInt? (n : Int64) : Option State :=
  if n.toInt < 0 then none else all[n.toInt.toNat]?

/-- The state with a stored form, or the error that there is none. -/
def ofInt (n : Int64) : Except WireError State :=
  match ofInt? n with
  | some state => .ok state
  | none => .error (.integerOutOfRange Key.state n)

@[simp] theorem ofInt?_toInt (s : State) : ofInt? s.toInt = some s := by
  cases s with
  | awaitResponse side => cases side <;> decide
  | awaitAck side => cases side <;> decide
  | _ => decide

/-- The transition table. What it does not list aborts the introduction. -/
def next : State → Action → State
  | .prepareRequests, .localRequest => .awaitResponses
  | .awaitResponses, .remoteAnswer side _ => .awaitResponse side.other
  | .awaitResponse side, .remoteAnswer sender _ => if sender = side then .awaitAcks else .aborted
  | .awaitAcks, .remoteAck side => .awaitAck side.other
  | .awaitAck side, .remoteAck sender => if sender = side then .finished else .aborted
  | .finished, .remoteAnswer _ _ => .finished
  | _, _ => .aborted

/-- Whether a response of either contact is expected. -/
def awaitsResponse : State → Bool
  | .awaitResponses => true
  | .awaitResponse _ => true
  | _ => false

/-- Whether an ack of either contact is expected. -/
def awaitsAck : State → Bool
  | .awaitAcks => true
  | .awaitAck _ => true
  | _ => false

/-- Whether the introduction is over. -/
def isTerminal : State → Bool
  | .finished => true
  | .aborted => true
  | _ => false

/-- The name of a state in log lines and error texts. -/
def name : State → String
  | .prepareRequests => "PREPARE_REQUESTS"
  | .awaitResponses => "AWAIT_RESPONSES"
  | .awaitResponse .first => "AWAIT_RESPONSE_1"
  | .awaitResponse .second => "AWAIT_RESPONSE_2"
  | .awaitAcks => "AWAIT_ACKS"
  | .awaitAck .first => "AWAIT_ACK_1"
  | .awaitAck .second => "AWAIT_ACK_2"
  | .finished => "FINISHED"
  | .aborted => "ERROR"

/-- The label of a state in diagnostics. -/
def label : State → String
  | .prepareRequests => "PrepareRequests"
  | .awaitResponses => "AwaitResponses"
  | .awaitResponse .first => "AwaitResponse1"
  | .awaitResponse .second => "AwaitResponse2"
  | .awaitAcks => "AwaitAcks"
  | .awaitAck .first => "AwaitAck1"
  | .awaitAck .second => "AwaitAck2"
  | .finished => "Finished"
  | .aborted => "Error"

/-- The states after each of a sequence of actions. -/
def walk (s : State) : List Action → List State
  | [] => []
  | action :: actions => s.next action :: (s.next action).walk actions

end State

end Introduction.Session

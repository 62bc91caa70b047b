import Introduction.Simulation.World

/-!
# Oracles

An oracle looks at a world at the end of a run and accepts it or says what is wrong. The oracles
here say when an introduction has come to a good end: it finished with both contacts informed, it
was given up and both contacts were told, and the published events are what the contacts answered.
-/

namespace Introduction.Simulation

/-- What is wrong with a world. -/
inductive Oracle.Failure where
  /-- The introduction is in another state, or is not stored. -/
  | state (expected : Session.State) (found : Option Session.State)
  /-- A contact never saw the other contact's answer. -/
  | noAnswer (name : String)
  /-- A contact never saw an ack. -/
  | noAck (name : String)
  /-- The introduction was given up and a contact was not told. -/
  | notTold (name : String)
  /-- The introduction neither finished nor was it given up. -/
  | stuck (state : Session.State)
  /-- A contact that does not answer is reported to have answered. -/
  | silentContact (name : String)
  /-- A contact's answer is reported wrongly. -/
  | wrongAnswer (name : String) (reported scripted : Bool)
  /-- An event is about another contact than the one introduced. -/
  | wrongName (name reported : String)
  /-- A contact's answer was not reported. -/
  | noEvent (name : String)
  /-- Another reason. -/
  | other (reason : String)
  deriving DecidableEq

/-- The text of a failure. -/
def Oracle.Failure.message : Oracle.Failure → String
  | .state expected (some found) => "expected " ++ expected.name ++ ", got " ++ found.name
  | .state expected none => "expected " ++ expected.name ++ ", but no session is stored"
  | .noAnswer name => name ++ " never saw the other response"
  | .noAck name => name ++ " never received an ack"
  | .notTold name => name ++ " was not told about the abort"
  | .stuck found => "session did not settle, stuck in " ++ found.name
  | .silentContact name => "event for silent contact " ++ name
  | .wrongAnswer name reported scripted =>
    "event for " ++ name ++ " reports accept=" ++ flagText reported ++ ", script says " ++
      flagText scripted
  | .wrongName name reported => "event for " ++ name ++ " names " ++ reported
  | .noEvent name => "no event for " ++ name ++ "'s response"
  | .other reason => reason

/-- Accepts a world or says what is wrong with it. -/
abbrev Oracle (σ : Type) : Type := World σ → Except Oracle.Failure Unit

namespace Oracle

variable {σ : Type}

/-- Checks both sides, the first one first. -/
def onBothSides (check : Side → Except Failure Unit) : Except Failure Unit := do
  check .first
  check .second

/-- The introduction is in the given state. -/
def stalledIn (expected : Session.State) : Oracle σ := fun w =>
  match w.state? with
  | some state =>
    if state = expected then .ok () else .error (.state expected (some state))
  | none => .error (.state expected none)

/-- A contact saw the other contact's answer and an ack. -/
def informed (p : Participant) : Except Failure Unit :=
  if p.otherAnswer.isNone then .error (.noAnswer p.contact.name)
  else if p.acksReceived = 0 then .error (.noAck p.contact.name)
  else .ok ()

/-- The introduction finished, and either contact saw the other's answer and an ack. -/
def finished : Oracle σ := fun w => do
  stalledIn .finished w
  onBothSides fun side => informed (w.participant side)

/-- A contact was told that the introduction is given up. -/
def told (p : Participant) : Except Failure Unit :=
  if p.aborted then .ok () else .error (.notTold p.contact.name)

/-- The introduction was given up, whether it is stored still or deleted, and both contacts were
told. -/
def aborted : Oracle σ := fun w =>
  match w.state? with
  | none => onBothSides fun side => told (w.participant side)
  | some .aborted => onBothSides fun side => told (w.participant side)
  | some state => .error (.state .aborted (some state))

/-- The introduction finished, or it was given up and both contacts were told. -/
def settled : Oracle σ := fun w =>
  match w.state? with
  | some .finished => .ok ()
  | some .aborted => aborted w
  | none => aborted w
  | some state => .error (.stuck state)

/-- The side whose contact an event is about; the second, unless it is the first. -/
def sideOf (w : World σ) (event : Event) : Side :=
  if event.contact = w.first.contact.id then .first else .second

/-- An event reports the answer in its contact's script and names the other contact. -/
def eventMatches (w : World σ) (event : Event) : Except Failure Unit :=
  let side := sideOf w event
  let p := w.participant side
  let name := p.contact.name
  if p.script.silent then .error (.silentContact name)
  else if event.accept ≠ p.script.accept then
    .error (.wrongAnswer name event.accept p.script.accept)
  else if event.name ≠ (w.participant side.other).contact.name then
    .error (.wrongName name event.name)
  else .ok ()

/-- A contact that answered is reported by some event. -/
def reported (w : World σ) (p : Participant) : Except Failure Unit :=
  if p.response.isSome && !(w.events.any (·.contact = p.contact.id)) then
    .error (.noEvent p.contact.name)
  else .ok ()

/-- Every event reports what its contact's script says and, unless the introduction was given up,
every contact that answered is reported. -/
def eventsMatchResponses : Oracle σ := fun w => do
  w.events.forM (eventMatches w)
  if w.state? ≠ some .aborted then onBothSides fun side => reported w (w.participant side)

/-- All of the given oracles accept; the first failure is reported. -/
def allOf (oracles : List (Oracle σ)) : Oracle σ := fun w => oracles.forM fun oracle => oracle w

end Oracle

end Introduction.Simulation

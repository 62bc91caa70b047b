import Introduction.Simulation.Oracle

/-!
# Scenarios

A scenario is a whole run: two scripted contacts are introduced, messages are delivered until none
is waiting, the introduction is given up on the way if the scenario says so, and an oracle judges
the world at the end.

`Scenario.enact` runs a scenario in a given world, whatever its source of choices; `Scenario.run`
makes the world from the seed.
-/

namespace Introduction.Simulation

/-- A run of the simulation. -/
structure Scenario where
  /-- What the scenario is called. -/
  name : String
  /-- Where the choices of the run start. -/
  seed : UInt64 := 0
  /-- The name of the first contact. -/
  firstName : String := "alice"
  /-- How the first contact behaves. -/
  firstScript : Script := .accepting
  /-- The name of the second contact. -/
  secondName : String := "bob"
  /-- How the second contact behaves. -/
  secondScript : Script := .accepting
  /-- How often a delivered message is copied. -/
  duplication : Rate := .never
  /-- Whether the queue served next is a choice. -/
  reorders : Bool := true
  /-- What becomes of a session that is given up. -/
  retention : Relay.Retention := .keepAll
  /-- A note sent with the requests. -/
  note : Option String := none
  /-- After how many deliveries the introduction is given up. -/
  abortAfter : Option Nat := none
  /-- The most deliveries. -/
  maxSteps : Nat := 10000

namespace Scenario

/-- Why a run is not accepted. -/
inductive Cause where
  /-- The introduction could not be started. -/
  | introduce (error : Relay.Error)
  /-- The introduction could not be given up. -/
  | abort (error : Relay.Error)
  /-- Messages are still waiting. -/
  | busy (maxSteps : Nat)
  /-- The oracle does not accept the world. -/
  | rejected (failure : Oracle.Failure)
  deriving DecidableEq

/-- The text of a cause. -/
def Cause.message : Cause → String
  | .introduce error => "introduce failed: " ++ error.message
  | .abort error => "abort failed: " ++ error.message
  | .busy maxSteps => "still busy after " ++ toString maxSteps ++ " deliveries"
  | .rejected failure => failure.message

/-- The text that reports a run that is not accepted. -/
def report (s : Scenario) (cause : Cause) : String :=
  "Scenario '" ++ s.name ++ "' (seed " ++ toString s.seed.toNat ++ "): " ++ cause.message

variable {σ : Type} [Choice σ]

/-- The world at the start: the contacts are drawn, the first one first. -/
def start (s : Scenario) (source : σ) : World σ :=
  let (first, source) := Participant.create ⟨1⟩ s.firstName s.firstScript source
  let (second, source) := Participant.create ⟨2⟩ s.secondName s.secondScript source
  { source, first, second
    network := { duplication := s.duplication, reorders := s.reorders }
    relay := { config := { retention := s.retention } } }

/-- Delivers messages until none is waiting or as many as the scenario allows have been delivered,
and gives the introduction up when its time has come. -/
def deliverFrom (s : Scenario) : (steps left : Nat) → World σ → Except Cause Unit × World σ
  | steps, left, w =>
    match if s.abortAfter = some steps then w.abort else (.ok (), w) with
    | (.error e, w) => (.error (.abort e), w)
    | (.ok (), w) =>
      match left with
      | 0 => (.ok (), w)
      | left + 1 =>
        match w.step with
        | (false, w) => (.ok (), w)
        | (true, w) => deliverFrom s (steps + 1) left w

/-- Runs the scenario in a world and gives the oracle's judgement. -/
def enact (s : Scenario) (oracle : Oracle σ) (w : World σ) : Except Cause Unit × World σ :=
  match w.introduce s.note with
  | (.error e, w) => (.error (.introduce e), w)
  | (.ok _, w) =>
    match s.deliverFrom 0 s.maxSteps w with
    | (.error e, w) => (.error e, w)
    | (.ok (), w) =>
      if !w.isIdle then (.error (.busy s.maxSteps), w)
      else ((oracle w).mapError .rejected, w)

omit [Choice σ]

/-- Runs the scenario from its seed and gives the oracle's judgement. -/
def run (s : Scenario) (oracle : Oracle Generator) : Except Cause Unit × World Generator :=
  s.enact oracle (s.start (Generator.ofSeed s.seed))

end Scenario

end Introduction.Simulation

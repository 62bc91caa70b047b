import Introduction.CommandLine.Arguments
import Introduction.Notice.Line

/-!
# What the simulator reports

The simulator reports what the introducer and the contacts have to tell, one line for every run,
and one at the end with the totals.
-/

namespace Introduction.CommandLine

open Simulation

/-- The notice at the end of a run that was accepted. -/
def passed {σ : Type} (s : Scenario) (w : World σ) : Notice :=
  ⟨.info, .simulator, "run passed",
    [("seed", .count s.seed.toNat), ("state", .quoted ((w.state?.map (·.name)).getD "deleted")),
      ("to_introducer", .count w.toIntroducer), ("to_contacts", .count w.toContacts),
      ("duplicates", .count w.network.duplicated), ("events", .count w.events.length)]⟩

/-- The notice at the end of a run that was not accepted. -/
def failed (s : Scenario) (cause : Scenario.Cause) : Notice :=
  ⟨.error, .simulator, "run failed",
    [("seed", .count s.seed.toNat), ("reason", .plain (s.report cause))]⟩

/-- What the simulator reports of one run. -/
structure RunReport where
  /-- The lines, in order. -/
  lines : List String
  /-- Whether the run was accepted. -/
  accepted : Bool
  /-- Whether the run was accepted with a finished introduction. -/
  finished : Bool
  deriving DecidableEq, Repr

/-- Reports a run of a scenario from its judgement and the world at its end. -/
def RunReport.ofOutcome {σ : Type} (s : Scenario) :
    Except Scenario.Cause Unit × World σ → RunReport
  | (.ok (), w) => ⟨Notice.lines (w.notices ++ [passed s w]), true, w.state? = some .finished⟩
  | (.error cause, w) => ⟨Notice.lines (w.notices ++ [failed s cause]), false, false⟩

/-- Carries out a run and reports it. -/
def RunReport.ofRun (a : Arguments) (run : Nat) : RunReport :=
  .ofOutcome (a.scenario run) ((a.scenario run).run a.oracle)

/-- How many runs there were, how many finished and how many were not accepted. -/
structure Totals where
  runs : Nat := 0
  finished : Nat := 0
  failures : Nat := 0
  deriving DecidableEq, Repr

namespace Totals

/-- The totals with one run more. -/
def add (t : Totals) (r : RunReport) : Totals :=
  { runs := t.runs + 1
    finished := if r.finished then t.finished + 1 else t.finished
    failures := if r.accepted then t.failures else t.failures + 1 }

/-- The lines at the end. -/
def lines (t : Totals) : List String :=
  Notice.lines
    [⟨.info, .simulator, "simulation complete",
      [("runs", .count t.runs), ("finished", .count t.finished), ("failures", .count t.failures)]⟩]

/-- The exit code: whether every run was accepted. -/
def exitCode (t : Totals) : Nat := if t.failures = 0 then 0 else 1

end Totals

/-- What the simulator does. -/
structure Report where
  /-- Lines on standard error, in order. -/
  lines : List String := []
  /-- The exit code. -/
  exitCode : Nat := 0
  deriving DecidableEq, Repr

/-- Carries out all runs and reports them. -/
def Report.ofArguments (a : Arguments) : Report :=
  let runs := (List.range a.runs.toNat).map (RunReport.ofRun a)
  let totals := runs.foldl Totals.add {}
  { lines := runs.flatMap (·.lines) ++ totals.lines, exitCode := totals.exitCode }

/-- The exit code when the command line cannot be read. -/
def usageExitCode : Nat := 2

end Introduction.CommandLine

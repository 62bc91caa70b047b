import Introduction.CommandLine.Report

/-!
# The simulator

Runs the simulations that the arguments ask for and writes one line to standard error for
everything an operator is to know. The exit code tells whether every run was accepted.
-/

namespace Introduction

open CommandLine

/-- Carries out the runs from a given one on, and reports each of them when it is done. -/
def runFrom (a : Arguments) (totals : Totals) (run : Nat) : (left : Nat) → IO Totals
  | 0 => return totals
  | left + 1 => do
    let report := RunReport.ofRun a run
    for line in report.lines do
      IO.eprintln line
    runFrom a (totals.add report) (run + 1) left

end Introduction

/-- Runs the simulator. -/
def main (arguments : List String) : IO UInt32 := do
  match Introduction.CommandLine.Command.read arguments with
  | none =>
    IO.eprintln "error: the arguments cannot be read"
    return UInt32.ofNat Introduction.CommandLine.usageExitCode
  | some .help =>
    for line in Introduction.CommandLine.usage do
      IO.println line
    return 0
  | some (.simulate a) =>
    let totals ← Introduction.runFrom a {} 0 a.runs.toNat
    for line in totals.lines do
      IO.eprintln line
    return UInt32.ofNat totals.exitCode

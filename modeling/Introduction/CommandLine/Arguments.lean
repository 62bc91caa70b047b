import Introduction.CommandLine.Decimal
import Introduction.Simulation.Scenario

/-!
# Arguments of the simulator

The simulator runs a number of scenarios, which differ in their seeds only. Its arguments say where
the seeds start, how many runs there are, how the contacts behave and how often deliveries are
copied. Every argument may be given once; a value follows its name as the next argument or after an
equals sign, and one that begins with a hyphen has to follow in the latter way. The simulator can
also be asked for a summary of its arguments (`usage`), and then does nothing else.

The arguments also fix the oracle of the runs (`Arguments.oracle`).
-/

namespace Introduction.CommandLine

open Simulation

/-- What the simulator is asked to do. -/
structure Arguments where
  /-- The seed of the first run. -/
  seed : UInt64 := 0
  /-- The number of runs. -/
  runs : UInt64 := 1
  /-- Whether the first contact declines. -/
  declineFirst : Bool := false
  /-- Whether the second contact declines. -/
  declineSecond : Bool := false
  /-- How often a delivery is copied. -/
  duplication : Rate := .never
  /-- Whether the second contact never answers. -/
  silentSecond : Bool := false
  deriving DecidableEq, Repr

/-- The names of the arguments. -/
inductive Flag where
  | seed | runs | declineFirst | declineSecond | duplication | silentSecond
  deriving DecidableEq, Repr

namespace Flag

/-- The text of an argument's name, without the hyphens in front. -/
def name : Flag → String
  | .seed => "seed"
  | .runs => "runs"
  | .declineFirst => "decline-first"
  | .declineSecond => "decline-second"
  | .duplication => "duplicate-rate"
  | .silentSecond => "silent-second"

/-- Every argument. -/
def all : List Flag :=
  [.seed, .runs, .declineFirst, .declineSecond, .duplication, .silentSecond]

/-- Whether an argument has a value. -/
def takesValue : Flag → Bool
  | .seed => true
  | .runs => true
  | .duplication => true
  | _ => false

/-- The argument with a name. -/
def ofName? (name : List Char) : Option Flag := all.find? fun f => f.name.toList = name

end Flag

/-- What a command line asks for. -/
inductive Command where
  /-- A summary of the arguments. -/
  | help
  /-- Runs of the simulation. -/
  | simulate (a : Arguments)
  deriving DecidableEq, Repr

/-- The summary of the arguments. -/
def usage : List String :=
  ["Deterministic simulation of mediated introductions",
    "",
    "Usage: liaison-sim [OPTIONS]",
    "",
    "Options:",
    "      --seed <SEED>                      " ++
      "Seed of the first run; run `n` uses `seed + n` [default: 0]",
    "      --runs <RUNS>                      Number of runs [default: 1]",
    "      --decline-first                    First contact declines",
    "      --decline-second                   Second contact declines",
    "      --duplicate-rate <DUPLICATE_RATE>  " ++
      "Probability that a delivery is duplicated [default: 0]",
    "      --silent-second                    Second contact never answers",
    "  -h, --help                             Print help"]

namespace Arguments

/-- The arguments with one that has no value. -/
def set (a : Arguments) : Flag → Arguments
  | .declineFirst => { a with declineFirst := true }
  | .declineSecond => { a with declineSecond := true }
  | .silentSecond => { a with silentSecond := true }
  | _ => a

/-- The arguments with one that has a value, if the value can be read. -/
def setValue (a : Arguments) (flag : Flag) (value : List Char) : Option Arguments :=
  match flag with
  | .seed => (readUInt64 value).map fun seed => { a with seed }
  | .runs => (readUInt64 value).map fun runs => { a with runs }
  | .duplication =>
    (readDouble value).map fun bits => { a with duplication := Rate.ofBits bits }
  | _ => none

/-- Splits a text at its first equals sign. -/
def splitEquals (text : List Char) : List Char × Option (List Char) :=
  (text.takeWhile (· ≠ '='), (text.dropWhile (· ≠ '=')).tail?)

/-- Whether a text can follow the name of an argument as its value. -/
def isValue : List Char → Bool
  | '-' :: _ :: _ => false
  | _ => true

/-- Reads a command line, where the arguments in `seen` have been given already. The first thing
that is wrong, or the wish for a summary, ends the reading. -/
def readFrom (a : Arguments) (seen : List Flag) : List (List Char) → Option Command
  | [] => some (.simulate a)
  | ('-' :: 'h' :: _) :: _ => some .help
  | ('-' :: '-' :: text) :: rest =>
    match splitEquals text with
    | ([], none) =>
      -- nothing may follow the mark that ends the named arguments
      if rest.isEmpty then some (.simulate a) else none
    | (name, attached) =>
      if name = "help".toList then
        if attached.isNone then some .help else none
      else
        match Flag.ofName? name with
        | none => none
        | some flag =>
          if seen.contains flag then none
          else
            match flag.takesValue, attached, rest with
            | false, none, rest => (a.set flag).readFrom (flag :: seen) rest
            | true, some value, rest =>
              match a.setValue flag value with
              | none => none
              | some a => a.readFrom (flag :: seen) rest
            | true, none, value :: rest =>
              if isValue value then
                match a.setValue flag value with
                | none => none
                | some a => a.readFrom (flag :: seen) rest
              else none
            | _, _, _ => none
  | _ :: _ => none

end Arguments

/-- Reads a command line. -/
def Command.read (arguments : List String) : Option Command :=
  Arguments.readFrom {} [] (arguments.map String.toList)

namespace Arguments

/-- How a contact behaves that answers. -/
def answering (declines : Bool) : Script := if declines then .declining else .accepting

/-- How the first contact behaves. -/
def firstScript (a : Arguments) : Script := answering a.declineFirst

/-- How the second contact behaves. -/
def secondScript (a : Arguments) : Script :=
  if a.silentSecond then .mute else answering a.declineSecond

/-- How the worlds at the end of the runs are judged. Copies may come out of turn and lead to the
introduction being given up, so with copies a run has to settle only; without them it has to
finish, unless the second contact never answers. -/
def oracle {σ : Type} (a : Arguments) : Oracle σ :=
  if a.silentSecond then Oracle.stalledIn (.awaitResponse .second)
  else if a.duplication ≠ .never then Oracle.allOf [Oracle.settled, Oracle.eventsMatchResponses]
  else Oracle.allOf [Oracle.finished, Oracle.eventsMatchResponses]

/-- The scenario of a run. -/
def scenario (a : Arguments) (run : Nat) : Scenario :=
  { name := "liaison-sim"
    seed := a.seed + UInt64.ofNat run
    firstScript := a.firstScript
    secondScript := a.secondScript
    duplication := a.duplication }

end Arguments

end Introduction.CommandLine

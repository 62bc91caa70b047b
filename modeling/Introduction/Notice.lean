/-!
# Notices

What the library has to tell an operator while it works: a level, the part of the program that
speaks, a text and named fields. Notices are values that an operation returns beside its result;
nothing that an operation does depends on them.
-/

namespace Introduction

/-- How much a notice matters. -/
inductive Level where
  | trace | debug | info | warn | error
  deriving DecidableEq, Repr

/-- The name of a level. -/
def Level.name : Level → String
  | .trace => "TRACE"
  | .debug => "DEBUG"
  | .info => "INFO"
  | .warn => "WARN"
  | .error => "ERROR"

/-- Whether a notice of this level is shown to an operator who did not ask for details. -/
def Level.isShown : Level → Bool
  | .trace => false
  | .debug => false
  | .info => true
  | .warn => true
  | .error => true

/-- The part of the program that a notice comes from. -/
inductive Origin where
  | session | relay | introducer | network | contact | world | simulator
  deriving DecidableEq, Repr

/-- The path under which a part of the program is known in log lines. -/
def Origin.path : Origin → String
  | .session => "liaison_core::introducer::engine"
  | .relay => "liaison_app::runtime"
  | .introducer => "liaison_app::introducer"
  | .network => "liaison_harness::sim_network"
  | .contact => "liaison_harness::introducee"
  | .world => "liaison_harness::scenario::world"
  | .simulator => "liaison_sim"

/-- The text of a truth value. -/
def flagText : Bool → String
  | true => "true"
  | false => "false"

/-- The value of a field of a notice. -/
inductive FieldValue where
  /-- A text shown as it is. -/
  | plain (s : String)
  /-- A text shown in quotes. -/
  | quoted (s : String)
  /-- A truth value. -/
  | flag (b : Bool)
  /-- A number. -/
  | count (n : Nat)
  deriving DecidableEq, Repr

/-- Something to tell an operator. -/
structure Notice where
  /-- How much it matters. -/
  level : Level
  /-- Who says it. -/
  origin : Origin
  /-- What is said. -/
  text : String
  /-- What it is said of, in order. -/
  fields : List (String × FieldValue)
  deriving DecidableEq, Repr

end Introduction

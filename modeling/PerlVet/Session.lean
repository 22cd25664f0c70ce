import PerlVet.Process

/-!
What one run of the program remembers: where predicate modules are looked for, which are
imported, the architecture names it has asked for, a log of its activity, and the interpreters it
has called.
-/

namespace PerlVet

/-- The parts of the program that keep a log. -/
inductive Area where
  | configuration
  | checker
  | includePath
  | compilation
  | lineScan
  | skipRules
  deriving DecidableEq, Repr

/-- The name of a part in the log. -/
def Area.name : Area → String
  | configuration => "perlcheck.config_loader"
  | checker => "perlcheck.orchestrator"
  | includePath => "perlcheck.paths"
  | compilation => "perlcheck.backends.compile"
  | lineScan => "perlcheck.backends.custom"
  | skipRules => "perlcheck.filtering"

/-- A line of the log. -/
structure LogLine where
  area : Area
  message : String
  deriving DecidableEq, Repr

/-- A line of the log as it is shown. -/
def LogLine.text (l : LogLine) : String := "DEBUG " ++ l.area.name ++ ": " ++ l.message

/-- What a run remembers. -/
structure Session where
  /-- The directories where modules are looked for, in order. -/
  modulePath : List String := []
  imports : Imports := []
  /-- Names of interpreters and of their architectures, latest use first. -/
  architectures : List (String × String) := []
  /-- The log, latest line first. -/
  log : List LogLine := []
  /-- The interpreters called, latest first. -/
  calls : List Call := []

namespace Session

/-- Adds a line to the log. -/
def note (s : Session) (area : Area) (message : String) : Session :=
  { s with log := ⟨area, message⟩ :: s.log }

end Session

end PerlVet

import PerlVet.Diagnostic.Severity

/-!
The reports this program is about, from a bare remark to a located diagnostic.
-/

namespace PerlVet

/-- A remark before anything is known about its place. -/
structure Fragment where
  severity : Severity
  message : String
  deriving DecidableEq, Repr

/-- A remark about a line. -/
structure Finding extends Fragment where
  line : Nat
  deriving DecidableEq, Repr

/-- A remark about a line, together with the check that made it. -/
structure Diagnostic extends Finding where
  origin : String
  deriving DecidableEq, Repr

/-- Attaches a line to a remark. -/
def Fragment.onLine (f : Fragment) (line : Nat) : Finding := { f with line }

/-- Attaches the check that made a remark. -/
def Finding.attributed (f : Finding) (origin : String) : Diagnostic := { f with origin }

/-- The same remark, as an error. -/
def Finding.raised (f : Finding) : Finding := { f with severity := .error }

end PerlVet

import PerlVet.Text.Blank
import PerlVet.Text.Case

/-!
How serious a diagnostic is, and the labels that name it.
-/

namespace PerlVet

/-- The two degrees of a diagnostic. -/
inductive Severity where
  | warning
  | error
  deriving DecidableEq, Repr, Inhabited

namespace Severity

/-- The label in reports. -/
def label : Severity → String
  | warning => "warning"
  | error => "error"

/-- The severity that a bare lower-case label names. -/
def named? : String → Option Severity
  | "warn" | "warning" => some warning
  | "err" | "error" => some error
  | _ => none

/-- The severity a label names, whatever its case and the blanks around it. No character outside
ASCII has a small form that occurs in a label, so lowering ASCII is enough. -/
def ofLabel? (s : String) : Option Severity :=
  named? (String.ofList ((Text.trim s.toList).map Text.asciiLower))

/-- What is said of a label that names no severity. -/
def unknown (s : String) : String := "unknown severity '" ++ s ++ "'"

end Severity

end PerlVet

import PerlVet.Config.Basic
import PerlVet.Diagnostic.Basic
import PerlVet.Session

/-!
Leaving out diagnostics whose message matches a pattern for their origin.
-/

namespace PerlVet

/-- Patterns, by the origin of the diagnostics they are for. -/
abbrev SkipRules := List (String × List Pattern)

/-- The rules of a configuration. Only diagnostics of the interpreter can be left out. -/
def Config.skipRules (c : Config) : SkipRules := [("compile", c.compile.patterns)]

namespace SkipRules

/-- A rule for the origin of the diagnostic matches its message. -/
def hides (rules : SkipRules) (d : Diagnostic) : Bool :=
  ((rules.lookup d.origin).getD []).any (·.isMatch d.message)

/-- The diagnostics that no rule hides, in order. -/
def visible (rules : SkipRules) (ds : List Diagnostic) : List Diagnostic :=
  ds.filter (!hides rules ·)

/-- The line of the log for a hidden diagnostic. -/
def note (d : Diagnostic) : String :=
  "suppressed " ++ d.origin ++ " diagnostic at line " ++ toString d.line ++ ": " ++ d.message

/-- Takes note of the diagnostics that a rule hides. -/
def noteHidden (rules : SkipRules) (ds : List Diagnostic) (s : Session) : Session :=
  (ds.filter (hides rules)).foldl (fun s d => s.note .skipRules (note d)) s

end SkipRules

end PerlVet

import PerlVet.Diagnostic.Basic
import PerlVet.Failure
import PerlVet.Value

/-!
Line predicates: foreign code that looks at one line of a file and may have something to say
about it.
-/

namespace PerlVet

/-- What a predicate answers. -/
inductive Answer where
  /-- A remark in final form. -/
  | fragment (f : Fragment)
  /-- Data; nothing at all is `null`. -/
  | data (v : Datum)

/-- A line predicate: its name in reports, and its answer for a line and the name of the file. -/
structure Predicate where
  name : String
  run : String → String → Except Failure Answer
  /-- The name is its own, and not just a text that shows the predicate. -/
  named : Bool := true

/-- Kinds of points in time; a document can hold them, and no setting wants one. -/
inductive Moment where
  | date
  | dateTime
  | time
  deriving DecidableEq, Repr

/-- The name of the kind of a point in time. -/
def Moment.kind : Moment → String
  | date => "date"
  | dateTime => "datetime"
  | time => "time"

/-- The leaves of settings beyond plain data. -/
inductive SettingLeaf where
  | moment (m : Moment)
  | predicate (p : Predicate)

/-- The name of the kind of a leaf. -/
def SettingLeaf.kind : SettingLeaf → String
  | moment m => m.kind
  | predicate _ => "function"

/-- A value in a configuration. -/
abbrev Setting := Value SettingLeaf

end PerlVet

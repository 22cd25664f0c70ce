import PerlVet.Glob
import PerlVet.Path
import PerlVet.Pattern.Search
import PerlVet.Predicate.Basic

/-!
The configuration of a checker, once it is known to be sound.
-/

namespace PerlVet

/-- Where the interpreter looks for libraries. -/
structure Config.Include where
  libs : List String := []
  /-- The usual directories are left out. -/
  replaceDefaults : Bool := false
  deriving DecidableEq, Repr

/-- How the interpreter inspects a file. -/
structure Config.Compile where
  inc : Config.Include := {}
  /-- Texts of patterns; diagnostics with a message that matches one are left out. -/
  skip : List String := []
  /-- The patterns that the texts write. -/
  patterns : List Pattern := []
  perl : String := "perl"
  args : List String := []

/-- A line predicate, and the globs of the files it is for. -/
structure LineRule where
  predicate : Predicate
  files : List String := []

/-- The line predicates, in the order in which they run. -/
structure Config.Custom where
  rules : List LineRule := []

/-- The whole configuration. -/
structure Config where
  compile : Config.Compile := {}
  custom : Config.Custom := {}

/-- The rule is for a file: it names no globs, or one of them matches the name of the file or its
whole path. -/
def LineRule.covers (r : LineRule) (p : Path) : Bool :=
  r.files.isEmpty || r.files.any fun glob => Glob.isMatch glob p.name || Glob.isMatch glob p.text

/-- The configuration with another value of the flag that leaves the usual directories out. -/
def Config.withReplacement (c : Config) (flag : Bool) : Config :=
  { c with compile := { c.compile with inc := { c.compile.inc with replaceDefaults := flag } } }

/-- The same configuration, with the usual directories left out. -/
def Config.replacingDefaults (c : Config) : Config := c.withReplacement true

end PerlVet

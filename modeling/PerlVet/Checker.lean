import PerlVet.Config.Load
import PerlVet.Inspector.Basic
import PerlVet.SkipRules

/-!
Vetting the files of a project. The configuration is loaded and the inspectors are built when they
are first needed; after that any number of files can be vetted.
-/

namespace PerlVet

/-- The stages in the life of a checker. -/
inductive Stage where
  | unconfigured
  | configured
  | running
  | done
  deriving DecidableEq, Repr

/-- The name of a stage. -/
def Stage.name : Stage → String
  | unconfigured => "unconfigured"
  | configured => "configured"
  | running => "running"
  | done => "done"

/-- What can go wrong when inspectors are built. -/
inductive BuildFault where
  /-- There are no inspectors. -/
  | failed (e : Failure)
  /-- There are inspectors, but one of them has no name that can be told. -/
  | unnamed (inspectors : List Inspector) (e : Failure)

/-- Builds the inspectors of a configuration for a project. -/
abbrev Builder := Host → Config → Path → Session → Except BuildFault (List Inspector) × Session

/-- Builds the inspectors that come with this program. -/
def Builder.standard (runner : Runner := Runner.system) (architecture : Option String := none) :
    Builder :=
  fun _ config root s => (.ok (Inspector.standard runner architecture config root), s)

/-- Hands over inspectors from elsewhere, which call themselves by the names given. -/
def Builder.handing (names : List Datum) (inspectors : List Inspector) : Builder :=
  fun _ _ _ s =>
    match Inspector.nameFault? 0 names with
    | some e => (.error (.unnamed inspectors e), s)
    | none => (.ok inspectors, s)

/-- The checker of a project. -/
structure Checker where
  root : Path
  /-- A configuration that needs no file. -/
  given : Option Config := none
  /-- The configuration file, if it is not the project's own. -/
  file : Option Path := none
  /-- The variables for overrides, if not those of the process. -/
  env : Option Environment := none
  builder : Builder := Builder.standard
  /-- The active configuration. -/
  config : Option Config := none
  inspectors : List Inspector := []
  rules : SkipRules := []
  stage : Stage := .unconfigured
  /-- The roots for which inspectors have been built, latest first. -/
  builds : List Path := []

namespace Checker

/-- The configuration to make active. -/
def chooseConfig (c : Checker) (h : Host) (s : Session) : Except Failure Config × Session :=
  match c.given with
  | some config => (.ok (config.override (overrides h c.env)), s)
  | none => Config.ofProject h c.root c.file c.env s

/-- The line of the log for the inspectors that have been built. -/
def inspectorsNote (is : List Inspector) : String :=
  "configured backends: " ++ ", ".intercalate (is.map Inspector.name)

/-- The checker with inspectors and the rules of a configuration, ready to vet files. -/
def equipped (c : Checker) (config : Config) (inspectors : List Inspector) : Checker :=
  { c with inspectors, rules := config.skipRules, stage := .configured }

/-- Loads the configuration and builds the inspectors. The log names them last of all, when the
checker is ready. -/
def prepare (c : Checker) (h : Host) (s : Session) :
    Except Failure Unit × Checker × Session :=
  match c.chooseConfig h s with
  | (.error e, s) => (.error e, c, s)
  | (.ok config, s) =>
    let c := { c with config := some config, builds := c.root :: c.builds }
    match c.builder h config c.root s with
    | (.error (.failed e), s) => (.error e, c, s)
    | (.error (.unnamed inspectors e), s) => (.error e, c.equipped config inspectors, s)
    | (.ok inspectors, s) =>
      (.ok (), c.equipped config inspectors, s.note .checker (inspectorsNote inspectors))

/-- Prepares the checker, unless that has been done. -/
def ensureReady (c : Checker) (h : Host) (s : Session) :
    Except Failure Unit × Checker × Session :=
  if c.stage == .unconfigured then c.prepare h s else (.ok (), c, s)

/-- The active configuration, loaded if necessary. -/
def readyConfig (c : Checker) (h : Host) (s : Session) :
    Except Failure (Option Config) × Checker × Session :=
  match c.ensureReady h s with
  | (.error e, c, s) => (.error e, c, s)
  | (.ok (), c, s) => (.ok c.config, c, s)

/-- The inspectors, built if necessary. -/
def readyInspectors (c : Checker) (h : Host) (s : Session) :
    Except Failure (List Inspector) × Checker × Session :=
  match c.ensureReady h s with
  | (.error e, c, s) => (.error e, c, s)
  | (.ok (), c, s) => (.ok c.inspectors, c, s)

/-- Sends a file through inspectors in order, up to the first that fails, and leaves out what the
rules hide. The inspectors come back with what they remember. -/
def inspectAll (h : Host) (target : Path) (rules : SkipRules) :
    List Inspector → Session → Except Failure (List Diagnostic) × List Inspector × Session
  | [], s => (.ok [], [], s)
  | i :: is, s =>
    match i.inspect h target s with
    | (.error e, i, s) => (.error e, i :: is, s)
    | (.ok ds, i, s) =>
      match inspectAll h target rules is (rules.noteHidden ds s) with
      | (.error e, is, s) => (.error e, i :: is, s)
      | (.ok rest, is, s) => (.ok (rules.visible ds ++ rest), i :: is, s)

/-- The line of the log for a file that has been vetted. -/
def vetNote (target : Path) (ds : List Diagnostic) : String :=
  toString ds.length ++ " diagnostics for " ++ target.text

/-- Vets a file. An inspector that fails ends that; the checker can be used again. -/
def vet (c : Checker) (h : Host) (target : Path) (s : Session) :
    Except Failure (List Diagnostic) × Checker × Session :=
  match c.ensureReady h s with
  | (.error e, c, s) => (.error e, c, s)
  | (.ok (), c, s) =>
    match h.isFile target with
    | .error e => (.error e, c, s)
    | .ok false => (.error (.targetMissing target.text), c, s)
    | .ok true =>
      let c := { c with stage := .running }
      match inspectAll h target c.rules c.inspectors s with
      | (.error e, inspectors, s) => (.error e, { c with inspectors, stage := .configured }, s)
      | (.ok ds, inspectors, s) =>
        (.ok ds, { c with inspectors, stage := .done }, s.note .checker (vetNote target ds))

/-- A new checker for the project at a path. -/
def ofRoot (h : Host) (root : Path) (given : Option Config) (file : Option Path)
    (env : Option Environment) (builder : Builder := Builder.standard) :
    Except Failure Checker :=
  (h.resolve root).map fun root => { root, given, file, env, builder }

end Checker

/-- Vets one file. Without a root, that of the project the file belongs to is used. -/
def vetFile (h : Host) (target : Path) (root : Option Path) (given : Option Config)
    (file : Option Path) (env : Option Environment) (s : Session) :
    Except Failure (List Diagnostic) × Session :=
  let found : Except Failure Path := match root with
    | some r => .ok r
    | none => h.projectTop target
  match found with
  | .error e => (.error e, s)
  | .ok root =>
    match Checker.ofRoot h root given file env with
    | .error e => (.error e, s)
    | .ok c =>
      let (result, _, s) := c.vet h target s
      (result, s)

end PerlVet

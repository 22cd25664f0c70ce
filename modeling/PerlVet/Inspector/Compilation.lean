import PerlVet.Architecture
import PerlVet.IncludePath
import PerlVet.Output.Report
import PerlVet.Shebang

/-!
Inspecting a file by letting the interpreter compile it.
-/

namespace PerlVet

/-- Runs commands: the machine does, or a stand-in. -/
abbrev Runner := Host → Call → Except Failure Completion

/-- The machine itself. -/
def Runner.system : Runner := Host.run

/-- The inspection by the interpreter, for one project. -/
structure Compilation where
  config : Config.Compile
  root : Path
  runner : Runner := Runner.system
  /-- The architecture name, if it need not be asked for. -/
  architecture : Option String := none
  /-- The directories for libraries, once they are resolved. -/
  resolved : Option (List Path) := none

namespace Compilation

/-- The origin of the diagnostics. -/
def name : String := "compile"

/-- Resolves the directories for libraries. -/
def resolve (c : Compilation) (h : Host) (s : Session) : Except Failure (List Path) × Session :=
  match c.architecture with
  | some architecture => IncludePath.find h c.root c.config.inc architecture s
  | none =>
    match Architecture.find h c.config.perl s with
    | (.error e, s) => (.error e, s)
    | (.ok architecture, s) => IncludePath.find h c.root c.config.inc architecture s

/-- The directories for libraries. They are resolved once; a failure is not remembered. -/
def includePath (c : Compilation) (h : Host) (s : Session) :
    Except Failure (List Path) × Compilation × Session :=
  match c.resolved with
  | some paths => (.ok paths, c, s)
  | none =>
    match c.resolve h s with
    | (.error e, s) => (.error e, c, s)
    | (.ok paths, s) => (.ok paths, { c with resolved := some paths }, s)

/-- The command that compiles a file, given the directories for libraries. -/
def commandWith (c : Compilation) (h : Host) (paths : List Path) (target : Path) : Command :=
  c.config.perl :: "-c" :: c.config.args ++ paths.map (fun p => "-I" ++ p.text) ++
    [(h.absolute target).text]

/-- The command that compiles a file. -/
def commandFor (c : Compilation) (h : Host) (target : Path) (s : Session) :
    Except Failure Command × Compilation × Session :=
  match c.includePath h s with
  | (.error e, c, s) => (.error e, c, s)
  | (.ok paths, c, s) => (.ok (c.commandWith h paths target), c, s)

/-- What the output of the interpreter says about the file it was given last. -/
def diagnostics (command : Command) (done : Completion) : Except Failure (List Diagnostic) :=
  match Output.read (command.getLast?.getD "").toList (some done.status) done.output.toList with
  | .ok found => .ok (found.map (·.attributed name))
  | .error e => .error (.tooManyDigits e)

/-- Runs the command that compiles a file. -/
def compileWith (c : Compilation) (h : Host) (command : Command) (s : Session) :
    Except Failure (List Diagnostic) × Session :=
  let s := s.note .compilation ("running " ++ " ".intercalate command)
  let call : Call := { args := command, cwd := some c.root, combine := true }
  let s := { s with calls := call :: s.calls }
  match c.runner h call with
  | .error e => (.error (if e.isSystem then .unableToRun command e.message else e), s)
  | .ok done =>
    (diagnostics command done, s.note .compilation
      (command.head?.getD "" ++ " exited with status " ++ toString done.status))

/-- Inspects a file. A file for another interpreter is passed over. -/
def inspect (c : Compilation) (h : Host) (target : Path) (s : Session) :
    Except Failure (List Diagnostic) × Compilation × Session :=
  match h.fileHead target with
  | .error e => (.error e, c, s)
  | .ok line =>
    if Shebang.isForeign line then
      (.ok [], c, s.note .compilation
        ("skipping " ++ target.text ++ ": shebang names another interpreter"))
    else
      match c.commandFor h target s with
      | (.error e, c, s) => (.error e, c, s)
      | (.ok command, c, s) =>
        let (result, s) := c.compileWith h command s
        (result, c, s)

end Compilation

end PerlVet

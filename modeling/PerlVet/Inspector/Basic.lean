import PerlVet.Inspector.Compilation
import PerlVet.Inspector.LineScan

/-!
Inspectors: what a file goes through, in order, to be vetted.
-/

namespace PerlVet

/-- An inspector of files. -/
inductive Inspector where
  | compilation (c : Compilation)
  | lineScan (config : Config.Custom)
  /-- An inspector from elsewhere, with the name of its kind and its own. -/
  | plugin (kind name : String) (inspect : Host → Path → Session →
      Except Failure (List Diagnostic) × Session)

namespace Inspector

/-- The name of an inspector. -/
def name : Inspector → String
  | compilation _ => Compilation.name
  | lineScan _ => LineScan.name
  | plugin _ name _ => name

/-- An inspector as it is shown. -/
def text (i : Inspector) : String :=
  let kind := match i with
    | compilation _ => "CompileBackend"
    | lineScan _ => "CustomBackend"
    | plugin kind _ _ => kind
  kind ++ "(name=" ++ Text.quoted i.name ++ ")"

/-- Inspectors that call themselves by these names, the first of which is at place `i`, cannot all
be named: the first name that is no text is at fault. -/
def nameFault? (i : Nat) : List Datum → Option Failure
  | [] => none
  | .text _ :: names => nameFault? (i + 1) names
  | name :: _ => some (.nameKind i (name.kind nofun))

/-- Inspects a file. The inspector may remember something for later files. -/
def inspect (i : Inspector) (h : Host) (target : Path) (s : Session) :
    Except Failure (List Diagnostic) × Inspector × Session :=
  match i with
  | compilation c =>
    let (result, c, s) := c.inspect h target s
    (result, compilation c, s)
  | lineScan config =>
    let (result, s) := LineScan.inspect config h target s
    (result, lineScan config, s)
  | plugin kind name run =>
    let (result, s) := run h target s
    (result, plugin kind name run, s)

/-- The inspectors that come with this program. -/
def standard (runner : Runner) (architecture : Option String) (config : Config) (root : Path) :
    List Inspector :=
  [compilation { config := config.compile, root, runner, architecture }, lineScan config.custom]

end Inspector

end PerlVet

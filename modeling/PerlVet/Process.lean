import PerlVet.Host
import PerlVet.Shell.Run

/-!
Running programs: finding the file a command names, starting it, and gathering its output as
text. Programs are scripts for the shell.
-/

namespace PerlVet

/-- A program to run. -/
structure Call where
  args : Command
  /-- The directory to run in; the current one if none is given. -/
  cwd : Option Path := none
  /-- All variables of the program; those of this process if none are given. -/
  environment : Option Environment := none
  /-- Both outputs go to one text. -/
  combine : Bool := true
  deriving DecidableEq, Repr

/-- A program that has ended. -/
structure Completion where
  args : Command
  /-- The exit status, negative for a signal. -/
  status : Int
  output : String
  /-- The error output, if it was kept apart. -/
  errors : Option String
  deriving DecidableEq, Repr

namespace Host

/-- A text holds a NUL. -/
def hasNul (s : String) : Bool := s.toList.contains '\x00'

/-- The text names an executable file. -/
def isProgram (h : Host) (s : String) : Bool :=
  !hasNul s &&
    match h.tree.follow h.cwd s with
    | .ok (_, .file _ executable) => executable
    | _ => false

/-- A name below a directory. -/
def below (dir name : String) : String :=
  if dir.isEmpty || dir.toList.getLast? == some '/' then dir ++ name else dir ++ "/" ++ name

/-- Directories that are divided by colons. -/
def directories (s : String) : List String := (Text.pieces ':' s.toList).map String.ofList

/-- The directories for programs when none are set. -/
def standardDirectories : String := "/bin:/usr/bin"

/-- The file that the name of a program stands for. A name with a slash is taken as it is, others
are looked for in the directories for programs. -/
def findProgram? (h : Host) (name : String) : Option String :=
  if name.toList.contains '/' then if h.isProgram name then some name else none
  else
    let path := (h.setting? "PATH").getD standardDirectories
    if path.isEmpty then none
    else ((directories path).map (below · name)).find? h.isProgram

/-- The command with its program replaced by the file it stands for. -/
def locateProgram (h : Host) : Command → Except Failure Command
  | [] => .error .emptyCommand
  | head :: rest =>
    let path := Path.ofString head
    if path.isAbsolute then .ok (path.text :: rest)
    else
      match h.findProgram? head with
      | some file => .ok (file :: rest)
      | none => .error (.programMissing head)

/-- The files to try for a program in turn. A name without a slash is looked for again. -/
def candidates (environment : Environment) (program : String) : List String :=
  if program.toList.contains '/' then [program]
  else
    (directories ((environment.lookup "PATH").getD standardDirectories)).map (below · program)

/-- Starts the first of the files that can be started. The first fault other than a missing file
is reported. -/
def startFirst (h : Host) (dir : Place) (args : List String) :
    Option OsFault → List String → Except OsFault Program
  | fault, [] => .error (fault.getD .noEntry)
  | fault, file :: files =>
    match Program.find h.tree dir Program.maxInterpreters file args with
    | .ok p => .ok p
    | .error e =>
      if e == .noEntry || e == .notDirectory then h.startFirst dir args fault files
      else h.startFirst dir args (fault.orElse fun _ => some e) files

/-- The place of the directory to run in. -/
def runDirectory (h : Host) : Option Path → Except Failure Place
  | none => .ok h.cwd
  | some p =>
    match h.walk p with
    | .ok (q, .dir) => .ok q
    | .ok _ => .error (.system .notDirectory p.text)
    | .error fault => .error (.system fault p.text)

/-- Output of a program as text. -/
def outputText (bytes : List UInt8) : String :=
  String.ofList (Text.universalNewlines (Text.Utf8.decode bytes))

/-- Some text that goes to the system holds a NUL. Variables that are passed on as they are do
not. -/
def callHasNul (call : Call) (args : Command) : Bool :=
  args.any hasNul || call.cwd.any (·.hasNul) ||
    call.environment.any (·.any fun e => hasNul e.1 || hasNul e.2)

/-- Runs a program to its end. An exit status other than zero is no failure. -/
def run (h : Host) (call : Call) : Except Failure Completion :=
  match h.locateProgram call.args with
  | .error e => .error e
  | .ok args =>
    let program := args.head?.getD ""
    let environment := call.environment.getD h.environment
    if call.environment.any (·.any (·.1.toList.contains '=')) then .error .variableName
    else if callHasNul call args then .error .nulCharacter
    else
      match h.runDirectory call.cwd with
      | .error e => .error e
      | .ok dir =>
        match h.startFirst dir args.tail none (candidates environment program) with
        | .error fault => .error (.system fault program)
        | .ok p =>
          let given := environment.map fun e => (e.1, Shell.ofString e.2)
          let (status, machine) := Shell.runProgramIn p given h.tree dir
          let output (which : Shell.Channel → Bool) : String := outputText (machine.writtenTo which)
          if call.combine then .ok ⟨args, status, output fun _ => true, none⟩
          else .ok ⟨args, status, output (· == .output), some (output (· == .errors))⟩

end Host

end PerlVet

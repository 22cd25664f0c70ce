import PerlVet.Files.Basic
import PerlVet.Shell.Basic
import PerlVet.Text.Utf8

/-!
The state of a shell that runs a script: its variables and functions, the channels it reads and
writes, the files it sees, and the ways in which the flow of a script can break off.
-/

namespace PerlVet.Shell

/-- A text as the shell has it. -/
def ofString (s : String) : List Char :=
  (Text.Utf8.encode s.toList).map fun b => Char.ofNat b.toNat

/-- The bytes that a text of the shell stands for. -/
def bytesOf (cs : List Char) : List UInt8 := cs.map fun c => UInt8.ofNat c.toNat

/-- A text of the shell for the world outside. -/
def toText (cs : List Char) : String := String.ofList (Text.Utf8.decode (bytesOf cs))

/-- Where the bytes of a channel go to or come from. -/
inductive Channel where
  | output
  | errors
  | nowhere
  /-- Kept for later. -/
  | buffer (number : Nat)
  /-- What is left of a text. -/
  | source (number : Nat)
  /-- The end of a file. -/
  | file (place : Place)
  deriving DecidableEq, Repr

/-- A variable. -/
structure Binding where
  value : Option (List Char) := none
  exported : Bool := false
  fixed : Bool := false
  deriving DecidableEq, Repr

/-- The state of a shell. -/
structure Machine where
  /-- The name of the script. -/
  name : List Char
  arguments : List (List Char)
  bindings : List (String × Binding)
  /-- Functions by their names. -/
  functions : List (String × Script) := []
  /-- The letters of the options that are on. -/
  options : List Char := []
  /-- The exit status of the last command. -/
  status : Nat := 0
  /-- The exit status of the last command whose output was used in the current one. -/
  inner : Nat := 0
  line : Nat := 0
  /-- The line up to which the script has been read. -/
  readLine : Nat := 0
  /-- The built-in command that runs, which messages name. -/
  doing : Option String := none
  channels : List (Nat × Channel) := [(0, .nowhere), (1, .output), (2, .errors)]
  /-- Something could not be written to the output. -/
  lost : Bool := false
  /-- What has been written, latest first. -/
  written : List (Channel × List UInt8) := []
  /-- What is left to read of texts, by number. -/
  sources : List (List Char) := []
  /-- Programs that have been found by their names. -/
  known : List (List Char) := []
  tree : FileTree
  /-- The current directory. -/
  cwd : Place
  /-- The name by which the current directory was reached. -/
  cwdName : List Char
  /-- Commands to run when the shell ends or a signal comes, by the names of signals. -/
  traps : List (String × List Char) := []
  /-- How many loops are running. -/
  loops : Nat := 0
  /-- For each function that is running, the former bindings of its local variables. -/
  locals : List (List (String × Option Binding)) := []
  /-- How far the next option lies in its argument. -/
  optionOffset : Nat := 0
  /-- The permissions that new files are not given. -/
  mask : Nat := 18
  /-- The number of this process. -/
  process : Nat := 1000
  /-- The number of the last process in the background. -/
  child : Option Nat := none
  /-- The exit status of the last process in the background. -/
  childStatus : Nat := 0

/-- Why the flow of a script breaks off. -/
inductive Stop where
  /-- So many loops are left. -/
  | leave (loops : Nat)
  /-- All but one of so many loops are left, and that one goes on with its next turn. -/
  | next (loops : Nat)
  /-- The current function is left. -/
  | back
  /-- A command failed in a way that ends the shell, unless it is an ordinary built-in one. -/
  | fault
  /-- The shell ends with an exit status, a negative one for a signal. -/
  | ended (status : Int)
  deriving DecidableEq, Repr

/-- A piece of work of the shell. -/
abbrev Run := ExceptT Stop (StateM Machine)

namespace Machine

/-- A variable. -/
def binding? (m : Machine) (name : String) : Option Binding := m.bindings.lookup name

/-- Replaces a variable. -/
def bind (m : Machine) (name : String) (b : Option Binding) : Machine :=
  let others := m.bindings.filter (·.1 != name)
  { m with bindings := (b.map (name, ·)).toList ++ others }

/-- The value of a variable. -/
def lookup? (m : Machine) (name : String) : Option (List Char) :=
  (m.binding? name).bind (·.value)

/-- The value of a parameter. -/
def parameter? (m : Machine) (name : String) : Option (List Char) :=
  match name with
  | "#" => some (toString m.arguments.length).toList
  | "?" => some (toString m.status).toList
  | "$" => some (toString m.process).toList
  | "!" => m.child.map fun n => (toString n).toList
  | "-" => some m.options
  | "0" => some m.name
  | name =>
    if name.toList.all Char.isDigit then
      match name.toNat? with
      | some (n + 1) => m.arguments[n]?
      | _ => some m.name
    else m.lookup? name

/-- The characters that divide fields. -/
def separators (m : Machine) : List Char := (m.lookup? "IFS").getD [' ', '\t', '\n']

/-- An option is on. -/
def has (m : Machine) (option : Char) : Bool := m.options.contains option

/-- What a channel stands for. -/
def channel? (m : Machine) (n : Nat) : Option Channel := m.channels.lookup n

/-- Lets a channel stand for something else, or for nothing. -/
def redirect (m : Machine) (n : Nat) (c : Option Channel) : Machine :=
  { m with channels := (c.map (n, ·)).toList ++ m.channels.filter (·.1 != n) }

/-- Writes bytes. What cannot be written is lost. -/
def writeTo (m : Machine) (c : Channel) (bytes : List UInt8) : Machine :=
  match c with
  | .nowhere | .source _ => m
  | .file p =>
    match m.tree.find? p with
    | some (.file old executable) =>
      { m with tree := m.tree.set p (.file (old ++ bytes) executable) }
    | _ => m
  | c => if bytes.isEmpty then m else { m with written := (c, bytes) :: m.written }

/-- Makes a text that can be read. -/
def addSource (m : Machine) (text : List Char) : Channel × Machine :=
  (.source m.sources.length, { m with sources := m.sources ++ [text] })

/-- What is left to read on a channel. -/
def readable (m : Machine) (n : Nat) : List Char :=
  match m.channel? n with
  | some (.source i) => (m.sources[i]?).getD []
  | _ => []

/-- Sets what is left to read on a channel. -/
def leaveToRead (m : Machine) (n : Nat) (rest : List Char) : Machine :=
  match m.channel? n with
  | some (.source i) => { m with sources := m.sources.set i rest }
  | _ => m

/-- What has been written to some of the channels. -/
def writtenTo (m : Machine) (which : Channel → Bool) : List UInt8 :=
  m.written.reverse.flatMap fun (c, bytes) => if which c then bytes else []

end Machine

/-- Writes a text to a channel. -/
def write (n : Nat) (text : List Char) : Run Unit :=
  modify fun m =>
    match m.channel? n with
    | none | some (.source _) => { m with lost := m.lost || (n == 1 && !text.isEmpty) }
    | some c => m.writeTo c (bytesOf text)

/-- A complaint with the name of the script, the line and the command it is about. -/
def complain (message : List Char) : Run Unit := do
  let m ← get
  let doing := (m.doing.map fun d => d.toList ++ ": ".toList).getD []
  write 2 (m.name ++ ": ".toList ++ (toString m.line).toList ++ ": ".toList ++ doing ++ message ++
    ['\n'])

/-- Complains and gives up. -/
def fault {α : Type} (message : List Char) : Run α := do
  complain message
  modify fun m => { m with status := 2 }
  throw .fault

/-- Complains about something in words and gives up. -/
def faultIn {α : Type} (what : List Char) (message : String) : Run α :=
  fault (what ++ ": ".toList ++ message.toList)

/-- Sets a variable. -/
def assign (name : String) (value : List Char) : Run Unit := do
  let m ← get
  let old := (m.binding? name).getD {}
  if old.fixed then faultIn name.toList "is read only"
  else
    let new : Binding := { old with value := some value, exported := old.exported || m.has 'a' }
    set (m.bind name new)
    if name == "PATH" then modify fun m => { m with known := [] }

/-- Sets the exit status. -/
def setStatus (n : Nat) : Run Unit := modify fun m => { m with status := n }

end PerlVet.Shell

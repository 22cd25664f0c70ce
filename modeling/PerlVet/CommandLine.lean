import PerlVet.Console
import PerlVet.Diagnostic.Document
import PerlVet.Checker

/-!
The command line: its options, what a run prints, and its exit status.
-/

namespace PerlVet.CommandLine

/-- How diagnostics are printed. -/
inductive Format where
  | text
  | json
  deriving DecidableEq, Repr

/-- Letters that count as the same in the name of a format. -/
def foldLetter (c : Char) : Char := if c == 'ſ' then 's' else Text.asciiLower c

/-- The format with a name, whatever the case of its letters. -/
def Format.named? (s : String) : Option Format :=
  match String.ofList (s.toList.map foldLetter) with
  | "text" => some .text
  | "json" => some .json
  | _ => none

/-- The options that take a value. -/
inductive ValueOption where
  | format
  | config
  | root
  deriving DecidableEq, Repr

/-- The option with a long name. -/
def ValueOption.long? : String → Option ValueOption
  | "--format" => some .format
  | "--config" => some .config
  | "--root" => some .root
  | _ => none

/-- The option with a short name. -/
def ValueOption.short? : Char → Option ValueOption
  | 'f' => some .format
  | 'c' => some .config
  | _ => none

/-- The words of a command line, sorted. Of a repeated option the last value counts. -/
structure Words where
  targets : List String := []
  format : Option String := none
  config : Option String := none
  root : Option String := none
  debug : Bool := false
  noEmoji : Bool := false
  deriving DecidableEq, Repr

/-- Stores the value of an option. -/
def Words.set (w : Words) (option : ValueOption) (value : String) : Words :=
  match option with
  | .format => { w with format := some value }
  | .config => { w with config := some value }
  | .root => { w with root := some value }

/-- A word that starts with two hyphens: the option, and its value after an equals sign. -/
def splitLong (word : String) : String × Option String :=
  let cs := word.toList
  let name := cs.takeWhile (· != '=')
  if cs.contains '=' then
    (String.ofList name, some (String.ofList (cs.drop (name.length + 1))))
  else (word, none)

/-- Sorts the words of a command line; none for a word that is no option or lacks its value. -/
def sort : List String → Words → Option Words
  | [], w => some w
  | word :: rest, w =>
    match word.toList with
    | ['-', '-'] => some { w with targets := w.targets ++ rest }
    | '-' :: '-' :: _ =>
      match splitLong word with
      | ("--debug", none) => sort rest { w with debug := true }
      | ("--no-emoji", none) => sort rest { w with noEmoji := true }
      | (name, value) =>
        match ValueOption.long? name, value, rest with
        | some option, some v, rest => sort rest (w.set option v)
        | some option, none, v :: rest => sort rest (w.set option v)
        | _, _, _ => none
    | '-' :: letter :: value =>
      match ValueOption.short? letter, value, rest with
      | some option, [], v :: rest => sort rest (w.set option v)
      | some option, c :: cs, rest => sort rest (w.set option (String.ofList (c :: cs)))
      | _, _, _ => none
    | _ => sort rest { w with targets := w.targets ++ [word] }
termination_by args => args.length

/-- What a run is asked to do. -/
structure Options where
  target : Path
  format : Format := .text
  config : Option Path := none
  root : Option Path := none
  debug : Bool := false
  emoji : Bool := true
  deriving DecidableEq, Repr

/-- The path that a word names; a word that holds a NUL names none. -/
def pathOf? (word : String) : Option Path :=
  if word.contains '\x00' then none else some (Path.ofString word)

/-- The options of a command line; none if it is wrong. There is exactly one target. -/
def parse (args : List String) : Option Options := do
  let w ← sort args {}
  let [target] := w.targets | none
  return { target := ← pathOf? target
           format := ← (w.format.map Format.named?).getD (some .text)
           config := ← w.config.mapM pathOf?
           root := ← w.root.mapM pathOf?
           debug := w.debug
           emoji := !w.noEmoji }

/-- How a run ends. -/
inductive Ending where
  /-- The command line is wrong. -/
  | usage
  /-- The file was checked. -/
  | checked (ds : List Diagnostic)
  /-- The check could not be carried out. -/
  | fatal (e : Failure)
  /-- The check was broken off from outside. -/
  | interrupted
  /-- An error that is not handled. -/
  | uncaught (e : Failure)

/-- The exit status after a run. -/
def Ending.status : Ending → Nat
  | checked ds => if ds.isEmpty then 0 else 1
  | usage | fatal _ => 2
  | interrupted => 130
  | uncaught _ => 1

/-- A run that has ended: what it printed on both outputs. -/
structure Outcome where
  ending : Ending
  output : String := ""
  errors : String := ""

/-- The output for the diagnostics of a file. -/
def render (format : Format) (ds : List Diagnostic) : String :=
  match format with
  | .json => Diagnostic.writeJson ds ++ "\n"
  | .text => if ds.isEmpty then "" else Diagnostic.writeText ds ++ "\n"

/-- Lines of the log, oldest first, for a log that is latest first. -/
def renderLog (log : List LogLine) : String :=
  String.join (log.reverse.map fun l => l.text ++ "\n")

/-- Checks the target of a command line. The output is taken for no terminal, so that control
sequences are left out of it; whether the errors go to a terminal is what `tty` says. -/
def execute (h : Host) (tty : Bool) (o : Options) (s : Session) : Outcome × Session :=
  let screen := Console.Screen.ofSettings h.setting? tty
  let (result, s) := vetFile h o.target o.root none o.config none { s with log := [] }
  let log := if o.debug then renderLog s.log else ""
  match result with
  | .ok ds =>
    ({ ending := .checked ds, output := Console.withoutEscapes (render o.format ds)
       errors := log }, s)
  | .error (.raised ⟨.interrupt, _⟩) => ({ ending := .interrupted, errors := log }, s)
  | .error e =>
    if e.isFatal then
      ({ ending := .fatal e
         errors := log ++ Console.errorMessage screen o.emoji none e.message }, s)
    else ({ ending := .uncaught e, errors := log }, s)

/-- Carries out a command line; `tty` is about the errors, as for `execute`. -/
def run (h : Host) (tty : Bool) (args : List String) (s : Session) : Outcome × Session :=
  match parse args with
  | none => ({ ending := .usage }, s)
  | some o => execute h tty o s

end PerlVet.CommandLine

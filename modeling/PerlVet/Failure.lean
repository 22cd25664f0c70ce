import PerlVet.Files.Basic
import PerlVet.Issue
import PerlVet.Output.Line
import PerlVet.Pattern.Basic
import PerlVet.Text.Quoted
import PerlVet.Text.Utf8

/-!
The ways in which an operation can fail. Diagnostics of a checked file are results and never
failures.
-/

namespace PerlVet

/-- The kinds of errors that foreign code may raise: line predicates, the modules that hold them,
and stand-ins for inspectors and interpreters. -/
inductive RaisedKind where
  | runtime
  | value
  | key
  | system
  | missingFile
  | denied
  | notDirectory
  | assertion
  | importing
  | typing
  | config
  | target
  | interrupt
  deriving DecidableEq, Repr

/-- An error that foreign code raised. -/
structure Raised where
  kind : RaisedKind
  message : String
  deriving DecidableEq, Repr

/-- The text of a foreign error; a missing key is quoted. -/
def Raised.text (r : Raised) : String :=
  match r.kind with
  | .key => Text.quoted r.message
  | _ => r.message

/-- The command that asks an interpreter for the name of its architecture, or one that checks a
file. -/
abbrev Command := List String

/-- Why an operation failed. -/
inductive Failure where
  /-- A configuration file is not there. -/
  | configMissing (path : String)
  /-- A configuration file cannot be read. -/
  | configUnreadable (path reason : String)
  /-- A configuration file is no TOML document. -/
  | configSyntax (path : String)
  /-- A configuration breaks the rules listed. -/
  | configInvalid (source : String) (issues : List Issue)
  /-- A check answered with something that is neither nothing nor a table. -/
  | answerKind (check kind : String)
  /-- A check answered with a table that is no remark. -/
  | answerInvalid (check : String) (issues : List Issue)
  /-- The file to check is not there. -/
  | targetMissing (path : String)
  /-- The file to check cannot be read. -/
  | targetUnreadable (path reason : String)
  /-- An interpreter cannot be run or does not answer as it should. -/
  | unableToRun (command : Command) (reason : String)
  /-- The system refuses an operation on a file. -/
  | system (fault : OsFault) (path : String)
  /-- No such program in the directories for programs. -/
  | programMissing (program : String)
  /-- A command without words. -/
  | emptyCommand
  /-- A name or argument for the system holds a NUL. -/
  | nulCharacter
  /-- A name of an environment variable holds an equals sign. -/
  | variableName
  /-- A home directory is not known. -/
  | homeUnknown
  /-- A symbolic link leads back to itself. -/
  | linkCycle (path : String)
  /-- A pattern asks for more than a pattern can hold. -/
  | pattern (fault : Pattern.Fault)
  /-- A number has too many digits. -/
  | tooManyDigits (e : Text.TooManyDigits)
  /-- Bytes that should be UTF-8 are not. -/
  | undecodable (e : Text.Utf8.DecodeError)
  /-- A module name that starts with a dot. -/
  | relativeModule (name : String)
  /-- A text is not what it should name. -/
  | refused (reason : String)
  /-- Data breaks the rules listed. -/
  | invalid (issues : List Issue)
  /-- The name of an inspector is no text. -/
  | nameKind (place : Nat) (kind : String)
  /-- Foreign code raised an error. -/
  | raised (r : Raised)
  deriving DecidableEq, Repr

namespace Failure

/-- The origin that failures to run the interpreter name. -/
def interpreterOrigin : String := "compile"

/-- A failure in words, without the issues it lists. -/
def message : Failure → String
  | configMissing path => "configuration file not found: " ++ path
  | configUnreadable path reason => "unable to read configuration " ++ path ++ ": " ++ reason
  | configSyntax path => "invalid TOML in " ++ path
  | configInvalid source _ => "invalid configuration in " ++ source
  | answerKind check kind =>
    "check " ++ check ++ " returned " ++ kind ++ "; expected a mapping or None"
  | answerInvalid check _ => "check " ++ check ++ " returned an invalid diagnostic"
  | targetMissing path => "file not found: " ++ path
  | targetUnreadable path reason => "unable to read " ++ path ++ ": " ++ reason
  | unableToRun command reason =>
    interpreterOrigin ++ ": unable to run '" ++ command.head?.getD "" ++ "': " ++ reason
  | system fault path =>
    "[Errno " ++ toString fault.number ++ "] " ++ fault.text ++ ": " ++ Text.quoted path
  | programMissing program => "Executable '" ++ program ++ "' was not found on PATH"
  | emptyCommand => "subprocess command requires at least one argument"
  | nulCharacter => "embedded null byte"
  | variableName => "illegal environment variable name"
  | homeUnknown => "Could not determine home directory."
  | linkCycle path => "Symlink loop from " ++ Text.quoted path
  | pattern fault => fault.text
  | tooManyDigits e => e.message
  | undecodable e => e.message
  | relativeModule name =>
    "the 'package' argument is required to perform a relative import for " ++ Text.quoted name
  | refused reason => reason
  | invalid _ => ""
  | nameKind place kind =>
    "sequence item " ++ toString place ++ ": expected str instance, " ++ kind ++ " found"
  | raised r => r.text

/-- The issues that a failure lists. -/
def issues : Failure → List Issue
  | configInvalid _ is | answerInvalid _ is | invalid is => is
  | _ => []

/-- The failure ends a check and is reported as such. -/
def isFatal : Failure → Bool
  | configMissing _ | configUnreadable _ _ | configSyntax _ | configInvalid _ _ | answerKind _ _
  | answerInvalid _ _ | targetMissing _ | targetUnreadable _ _ | unableToRun _ _ => true
  | raised r => r.kind == .config || r.kind == .target
  | _ => false

/-- The failure comes from the operating system. -/
def isSystem : Failure → Bool
  | system _ _ | programMissing _ => true
  | raised r =>
    match r.kind with
    | .system | .missingFile | .denied | .notDirectory => true
    | _ => false
  | _ => false

/-- What a failure amounts to while settings are read: those that refuse a value become complaints
about it, all others end the reading. -/
def complaint? : Failure → Option Complaint
  | refused reason => some (.refused reason)
  | raised r =>
    match r.kind with
    | .value => some (.refused r.text)
    | .assertion => some (.assertion r.text)
    | _ => none
  | _ => none

end Failure

end PerlVet

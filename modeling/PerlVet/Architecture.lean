import PerlVet.Session

/-!
The architecture name of an interpreter, on which the place of some libraries depends. It is asked
of the interpreter itself; a session keeps the eight answers used last.
-/

namespace PerlVet.Architecture

/-- What makes an interpreter print its architecture name. -/
def script : String := "use Config; print $Config\x7barchname\x7d"

/-- The command that asks an interpreter for its architecture name. -/
def question (perl : String) : Command := [perl, "-e", script]

/-- Asks an interpreter for its architecture name. -/
def ask (h : Host) (perl : String) : Except Failure String :=
  match h.run { args := question perl, combine := false } with
  | .error e => if e.isSystem then .error (.unableToRun (question perl) e.message) else .error e
  | .ok done =>
    let name := String.ofList (Text.trim done.output.toList)
    if done.status != 0 || name.isEmpty then
      .error (.unableToRun (question perl)
        ("archname probe exited with status " ++ toString done.status))
    else .ok name

/-- How many answers are kept. -/
def maxKept : Nat := 8

/-- Puts an answer in front of those that are kept. -/
def keep (perl name : String) (kept : List (String × String)) : List (String × String) :=
  ((perl, name) :: kept.filter (·.1 != perl)).take maxKept

/-- The architecture name of an interpreter, from the answers kept, else `answer`, which is what
comes of asking the interpreter. Failures are not kept. -/
def findGiven (answer : Except Failure String) (perl : String) (s : Session) :
    Except Failure String × Session :=
  match s.architectures.lookup perl with
  | some name => (.ok name, { s with architectures := keep perl name s.architectures })
  | none =>
    match answer with
    | .error e => (.error e, s)
    | .ok name => (.ok name, { s with architectures := keep perl name s.architectures })

/-- The architecture name of an interpreter, from the answers kept or by asking for it. -/
def find (h : Host) (perl : String) (s : Session) : Except Failure String × Session :=
  findGiven (ask h perl) perl s

end PerlVet.Architecture

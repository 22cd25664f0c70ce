import PerlVet.Output.Line
import PerlVet.Text.Lines

/-!
Whole reports of the interpreter about a file. Single lines leave open whether compilation went
on; a line that says it was aborted and the exit status of the interpreter settle that, so that a
failed compilation always shows an error.
-/

namespace PerlVet.Output

/-- The line says that compilation was aborted at a place in the file; the digits of its line
number. -/
def abortDigits? (file line : List Char) : Option (List Char) :=
  let head := abortMessage.toList ++ mark file
  if head.isPrefixOf line then
    let rest := line.drop head.length
    let digits := rest.takeWhile Text.isDigit
    if !digits.isEmpty && rest.drop digits.length == ['.'] then some digits else none
  else none

/-- What has been found so far. -/
structure Progress where
  /-- The findings, latest first. -/
  found : List Finding := []
  /-- The line before gave the latest finding. -/
  fresh : Bool := false
  deriving DecidableEq, Repr

/-- The record of an abort itself. -/
def abortFinding (line : Nat) : Finding := ⟨⟨.error, abortMessage⟩, line⟩

/-- Takes note of an abort at a line: what led to it becomes an error, and if nothing did, the
abort is a finding of its own. -/
def noteAbort (line : Nat) (p : Progress) : List Finding :=
  if line < 1 then p.found
  else
    match p.found with
    | last :: rest =>
      if p.fresh || last.line == line then last.raised :: rest else abortFinding line :: p.found
    | [] => [abortFinding line]

/-- Takes note of one line. -/
def Progress.step (file line : List Char) (p : Progress) : Except Text.TooManyDigits Progress :=
  match abortDigits? file (Text.trimRight line) with
  | some digits => (Text.readNumber digits).map fun n => ⟨noteAbort n p, false⟩
  | none =>
    (readLine file line).map fun
      | some f => ⟨f :: p.found, true⟩
      | none => ⟨p.found, false⟩

/-- Takes note of lines, one after the other. -/
def Progress.steps (file : List Char) :
    List (List Char) → Progress → Except Text.TooManyDigits Progress
  | [], p => .ok p
  | line :: lines, p => (p.step file line).bind (steps file lines)

/-- The finding for a compilation that failed without a word. -/
def statusFinding (status : Int) : Finding :=
  ⟨⟨.error, "compilation failed with exit status " ++ toString status⟩, 1⟩

/-- Takes the exit status into account: after a failure, if nothing found is an error, the latest
finding becomes one. Findings are latest first. -/
def settle (status : Option Int) (found : List Finding) : List Finding :=
  match status with
  | none => found
  | some n =>
    if n == 0 || found.any (·.severity == .error) then found
    else
      match found with
      | last :: rest => last.raised :: rest
      | [] => [statusFinding n]

/-- What lines of interpreter output say about a file, in their order. -/
def readLines (file : List Char) (status : Option Int) (lines : List (List Char)) :
    Except Text.TooManyDigits (List Finding) :=
  (Progress.steps file lines {}).map fun p => (settle status p.found).reverse

/-- What the output of an interpreter says about a file. -/
def read (file : List Char) (status : Option Int) (output : List Char) :
    Except Text.TooManyDigits (List Finding) :=
  readLines file status (Text.splitLines output)

end PerlVet.Output

import PerlVet.Diagnostic.Basic
import PerlVet.Output.Restatement
import PerlVet.Output.Wording

/-!
Single lines of interpreter output. A line about a file reads `MESSAGE at FILE line NUMBER`, and
then either ends with a full stop, perhaps after the last input handle that was read, or goes on
with a comma and the context of an error.
-/

namespace PerlVet.Output

/-- A line of output, taken apart at the place it names. -/
structure Located where
  message : List Char
  digits : List Char
  tail : List Char
  deriving DecidableEq, Repr

/-- What stands between the message and the line number. -/
def mark (file : List Char) : List Char := " at ".toList ++ file ++ " line ".toList

/-- The text begins with a mark and a line number: the digits, and what follows them. -/
def placeHere? (mark cs : List Char) : Option (List Char × List Char) :=
  if mark.isPrefixOf cs then
    let rest := cs.drop mark.length
    let digits := rest.takeWhile Text.isDigit
    if digits.isEmpty then none else some (digits, rest.drop digits.length)
  else none

/-- The last place in a text, after the characters `before` (held backwards), that leaves a message
in front of it and has no newline before or after it. -/
def lastPlace (mark : List Char) (before : List Char) : List Char → Option Located
  | [] => none
  | c :: cs =>
    match lastPlace mark (c :: before) cs with
    | some l => some l
    | none =>
      match placeHere? mark (c :: cs) with
      | some (digits, tail) =>
        if before.isEmpty || before.contains '\n' || tail.contains '\n' then none
        else some ⟨before.reverse, digits, tail⟩
      | none => none

/-- A line taken apart at the last place it names in the file. -/
def locate (file line : List Char) : Option Located := lastPlace (mark file) [] line

/-- Words, digits and a full stop, and nothing else. -/
def isCount (word cs : List Char) : Bool :=
  word.isPrefixOf cs &&
    let rest := cs.drop word.length
    let digits := rest.takeWhile Text.isDigit
    !digits.isEmpty && rest.drop digits.length == ['.']

/-- The tail only names the input handle that was read last. -/
def isHandleTail (tail : List Char) : Bool :=
  ", <".toList.isPrefixOf tail &&
    let rest := tail.drop 3
    let handle := rest.takeWhile (· != '>')
    let rest := rest.drop handle.length
    !handle.isEmpty && (isCount "> line ".toList rest || isCount "> chunk ".toList rest)

/-- What a line says that was taken apart, given its line number. -/
def Located.finding (l : Located) (line : Nat) : Option Finding :=
  if line < 1 then none
  else if l.tail == ['.'] || isHandleTail l.tail then
    some ⟨⟨impliedSeverity l.message, String.ofList l.message⟩, line⟩
  else if l.tail.head? == some ',' then
    some ⟨⟨.error, String.ofList (l.message ++ l.tail)⟩, line⟩
  else none

/-- What a line of output says about the file. -/
def readLine (file line : List Char) : Except Text.TooManyDigits (Option Finding) :=
  let line := Text.trimRight line
  if line.isEmpty || isRestatement line then .ok none
  else
    match locate file line with
    | none => .ok none
    | some l => (Text.readNumber l.digits).map l.finding

end PerlVet.Output

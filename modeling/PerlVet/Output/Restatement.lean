/-!
Restatements: lines of interpreter output that only repeat what was said before.
-/

namespace PerlVet.Output

/-- What the interpreter says when a phase that runs during compilation fails. -/
def abortMessage : String := "BEGIN failed--compilation aborted"

/-- The text without the newline at its end, if it has one. -/
def dropFinalNewline (cs : List Char) : List Char :=
  if cs.getLast? == some '\n' then cs.dropLast else cs

/-- The text begins with `first`, ends with `last`, and no newline stands between the two. -/
def framed (first last : List Char) (cs : List Char) : Bool :=
  let rest := cs.drop first.length
  first.isPrefixOf cs && last.isSuffixOf rest &&
    !(rest.take (rest.length - last.length)).contains '\n'

/-- The line only restates an earlier diagnostic. -/
def isRestatement (line : List Char) : Bool :=
  abortMessage.toList.isPrefixOf line ||
    "BEGIN not safe after errors--compilation aborted".toList.isPrefixOf line ||
    "had compilation errors.".toList.isSuffixOf (dropFinalNewline line) ||
    " syntax OK".toList.isSuffixOf (dropFinalNewline line) ||
    framed "Execution of ".toList " aborted due to compilation errors.".toList
      (dropFinalNewline line)

end PerlVet.Output

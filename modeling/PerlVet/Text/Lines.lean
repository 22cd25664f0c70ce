/-!
Cutting text into lines, in the two ways that matter here: at every line boundary of Unicode
(interpreter output held in memory), and at newlines only (files), after every carriage return
has been turned into a newline.
-/

namespace PerlVet.Text

/-- The characters that end a line of interpreter output. -/
def isLineBoundary (c : Char) : Bool :=
  c == '\n' || c == '\r' || c == '\x0b' || c == '\x0c' || c == '\x1c' || c == '\x1d' ||
    c == '\x1e' || c == '\u0085' || c == '\u2028' || c == '\u2029'

/-- The lines of a text after the characters `line` (held backwards) of its first line. A carriage
return leaves it to the newline after it, if there is one, to end the line; a boundary at the end
opens no further line. -/
def splitLinesFrom (line : List Char) : List Char → List (List Char)
  | [] => if line.isEmpty then [] else [line.reverse]
  | c :: cs =>
    if c == '\r' && cs.head? == some '\n' then splitLinesFrom line cs
    else if isLineBoundary c then line.reverse :: splitLinesFrom [] cs
    else splitLinesFrom (c :: line) cs

/-- The lines of a text, cut at every line boundary and without the boundaries. -/
def splitLines (cs : List Char) : List (List Char) := splitLinesFrom [] cs

/-- Turns a carriage return, with the newline after it if there is one, into a newline. -/
def universalNewlines : List Char → List Char
  | [] => []
  | '\r' :: '\n' :: cs => '\n' :: universalNewlines cs
  | '\r' :: cs => '\n' :: universalNewlines cs
  | c :: cs => c :: universalNewlines cs

/-- The newline-terminated lines of a text after the characters `line` (held backwards). -/
def newlineLinesFrom (line : List Char) : List Char → List (List Char)
  | [] => if line.isEmpty then [] else [line.reverse]
  | c :: cs =>
    if c == '\n' then line.reverse :: newlineLinesFrom [] cs else newlineLinesFrom (c :: line) cs

/-- The lines of a text, cut at newlines and without them; a final newline opens no further
line. -/
def newlineLines (cs : List Char) : List (List Char) := newlineLinesFrom [] cs

/-- The pieces between occurrences of `sep`, after the characters `piece` (held backwards). -/
def piecesFrom (sep : Char) (piece : List Char) : List Char → List (List Char)
  | [] => [piece.reverse]
  | c :: cs =>
    if c == sep then piece.reverse :: piecesFrom sep [] cs else piecesFrom sep (c :: piece) cs

/-- The pieces between occurrences of `sep`; there is always at least one. -/
def pieces (sep : Char) (cs : List Char) : List (List Char) := piecesFrom sep [] cs

end PerlVet.Text

import PerlVet.Diagnostic.Severity
import PerlVet.Text.Digit

/-!
The wording of messages: which of them announce an error that stops compilation. A wording is a
sequence of pieces that a message begins with, so whatever is appended to the message of an error
leaves it one.
-/

namespace PerlVet.Output

/-- One piece of a wording. -/
inductive Piece where
  /-- These characters. -/
  | words (text : String)
  /-- These characters in capital or small letters. -/
  | anyCase (text : String)
  /-- Any characters of one line, perhaps none. -/
  | gap
  /-- Characters without blanks, at least one. -/
  | solid
  /-- Digits, at least one. -/
  | digits
  /-- One of these characters. -/
  | oneOf (chars : String)
  deriving DecidableEq, Repr

/-- Some split of the text, whose first part holds characters that satisfy `ok` only, has a second
part that satisfies `next`. -/
def after (ok : Char → Bool) (next : List Char → Bool) : List Char → Bool
  | [] => next []
  | c :: cs => next (c :: cs) || (ok c && after ok next cs)

/-- As `after`, with at least one character in the first part. -/
def afterSome (ok : Char → Bool) (next : List Char → Bool) : List Char → Bool
  | [] => false
  | c :: cs => ok c && after ok next cs

/-- The text begins with characters that are `same` as those of a word, and what follows satisfies
`next`. -/
def afterWord (same : Char → Char → Bool) (next : List Char → Bool) :
    List Char → List Char → Bool
  | [], cs => next cs
  | _ :: _, [] => false
  | w :: ws, c :: cs => same w c && afterWord same next ws cs

/-- The two characters agree but for case. -/
def sameLetter (w c : Char) : Bool := (Text.caseFamily w.toNat).contains c.toNat

/-- The text begins with a piece, and what follows satisfies `next`. -/
def Piece.leads (next : List Char → Bool) : Piece → List Char → Bool
  | words text, cs => afterWord (· == ·) next text.toList cs
  | anyCase text, cs => afterWord sameLetter next text.toList cs
  | gap, cs => after (· != '\n') next cs
  | solid, cs => afterSome (!Text.isBlank ·) next cs
  | digits, cs => afterSome Text.isDigit next cs
  | oneOf _, [] => false
  | oneOf chars, c :: cs => chars.toList.contains c && next cs

/-- The text begins with the pieces, one after the other. -/
def begins : List Piece → List Char → Bool
  | [], _ => true
  | p :: ps, cs => p.leads (begins ps) cs

/-- The wordings of messages that stop compilation. -/
def fatalWordings : List (List Piece) :=
  [[.words "syntax error"],
   [.words "Bareword \"", .gap, .words "\" not allowed while \"strict subs\" in use"],
   [.words "Global symbol \"", .gap, .words "\" requires explicit package name"],
   [.words "Can't locate ", .solid, .words " in @INC"],
   [.words "Can't locate object method"],
   [.words "Can't find string terminator"],
   [.words "Can't use "],
   [.words "Can't modify "],
   [.words "Can't declare "],
   [.words "Missing right curly"],
   [.words "Unmatched right curly"],
   [.words "Not enough arguments for "],
   [.words "Too many arguments for "],
   [.words "Type of arg ", .digits, .words " to ", .gap, .words " must be "],
   [.words "Undefined subroutine "],
   [.words "Illegal declaration of "],
   [.words "Missing $ on loop variable"],
   [.solid, .words " found where operator expected"],
   [.words "Unknown regexp modifier"],
   [.words "Unmatched ", .oneOf "[("],
   [.words "Experimental ", .gap, .words " is not supported"],
   [.anyCase "Illegal character in prototype"],
   [.words "Unrecognized character "],
   [.words "Transliteration pattern not terminated"],
   [.words "Transliteration replacement not terminated"],
   [.words "Substitution pattern not terminated"],
   [.words "Substitution replacement not terminated"],
   [.words "Search pattern not terminated"]]

/-- The severity that the wording of a message implies. -/
def impliedSeverity (message : List Char) : Severity :=
  if fatalWordings.any (begins · message) then .error else .warning

end PerlVet.Output

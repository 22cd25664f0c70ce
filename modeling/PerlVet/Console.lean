import PerlVet.Text.Columns
import PerlVet.Text.Lines

/-!
Error messages on a terminal or elsewhere. Messages are shown as they are but for a few control
characters and tabs; on a terminal that can, they are red.
-/

namespace PerlVet.Console

/-- Where messages go. -/
structure Screen where
  /-- The output is a terminal. -/
  tty : Bool
  /-- The kind of the terminal. -/
  term : Option String := none
  /-- What the environment says about the output: `1` for a terminal, `0` for none. -/
  compatible : Option String := none
  /-- What the environment says about colour: any text asks for it, an empty one refuses it. -/
  forced : Option String := none

namespace Screen

/-- The screen that an environment describes. -/
def ofSettings (setting? : String → Option String) (tty : Bool) : Screen where
  tty
  term := setting? "TERM"
  compatible := setting? "TTY_COMPATIBLE"
  forced := setting? "FORCE_COLOR"

/-- The output is treated as a terminal. -/
def isTerminal (s : Screen) : Bool :=
  if s.compatible == some "0" then false
  else if s.compatible == some "1" then true
  else
    match s.forced with
    | some value => !value.isEmpty
    | none => s.tty

/-- The terminal cannot show colours. -/
def isDumb (s : Screen) : Bool := s.term.any fun t => ["dumb", "unknown"].contains t.toLower

end Screen

/-- Control characters that are never shown. -/
def isDropped (c : Char) : Bool :=
  c == '\x07' || c == '\x08' || c == '\x0b' || c == '\x0c' || c == '\r'

/-- What is left of a text that starts with a terminal's control sequence: behind an escape and a
bracket, digits, semicolons and question marks, then a letter. -/
def afterSequence? : List Char → Option (List Char)
  | '\x1b' :: '[' :: cs =>
    match cs.dropWhile fun c => c.isDigit || c == ';' || c == '?' with
    | c :: cs => if c.isAlpha then some cs else none
    | [] => none
  | _ => none

/-- Leaves out the control sequences of a text, after `skip` characters that belong to one. -/
def dropSequences : Nat → List Char → List Char
  | _, [] => []
  | skip + 1, _ :: cs => dropSequences skip cs
  | 0, c :: cs =>
    match afterSequence? (c :: cs) with
    | some rest => dropSequences (cs.length - rest.length) cs
    | none => c :: dropSequences 0 cs

/-- A text without the control sequences of terminals, for an output that is none. -/
def withoutEscapes (s : String) : String := String.ofList (dropSequences 0 s.toList)

/-- The pieces of a line up to its tabs. A tab becomes a blank, and more blanks up to the next
column that is a multiple of eight; `piece` is held backwards and starts at `column`. -/
def tabPieces (column : Nat) (piece : List Char) : List Char → List (List Char)
  | [] => if piece.isEmpty then [] else [piece.reverse]
  | c :: cs =>
    if c == '\t' then
      let text := piece.reverse ++ [' ']
      let column := column + Text.columns text
      let blanks := (8 - column % 8) % 8
      (text ++ List.replicate blanks ' ') :: tabPieces (column + blanks) [] cs
    else tabPieces column (c :: piece) cs

/-- A piece of text in red. -/
def red (cs : List Char) : List Char :=
  if cs.isEmpty then [] else "\x1b[31m".toList ++ cs ++ "\x1b[0m".toList

/-- A line, in colour or not. -/
def line (colour : Bool) (cs : List Char) : List Char :=
  (tabPieces 0 [] cs).flatMap fun p => if colour then red p else p

/-- An error message: marked by a cross if `emoji` is on, in colour if that is asked for (by
default on a terminal) and the terminal can show it. -/
def errorMessage (screen : Screen) (emoji : Bool) (colour : Option Bool) (message : String) :
    String :=
  let text := ((if emoji then "❌ " else "") ++ message).toList.filter (!isDropped ·)
  let coloured := colour.getD screen.tty && screen.isTerminal && !screen.isDumb
  String.ofList (['\n'].intercalate ((Text.pieces '\n' text).map (line coloured)) ++ ['\n'])

end PerlVet.Console

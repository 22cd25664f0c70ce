import PerlVet.Value

/-!
Writing JSON documents, either without any blanks or with every item and entry on a line of its
own, indented by a chosen number of spaces a level.
-/

namespace PerlVet.Json

/-- One character inside quotes: quotes, backslashes and control characters are escaped, all else
stands for itself. -/
def escapeChar (c : Char) : List Char :=
  if c == '"' then ['\\', '"']
  else if c == '\\' then ['\\', '\\']
  else if c == '\x08' then ['\\', 'b']
  else if c == '\x0c' then ['\\', 'f']
  else if c == '\n' then ['\\', 'n']
  else if c == '\r' then ['\\', 'r']
  else if c == '\t' then ['\\', 't']
  else if c.toNat < 0x20 then '\\' :: 'u' :: Text.hexDigits 4 c.toNat
  else [c]

/-- A text in quotes. -/
def writeText (s : String) : List Char := '"' :: s.toList.flatMap escapeChar ++ ['"']

/-- What stands before an item or a closing bracket at a level: nothing without indentation, else
a new line. -/
def newline (indent : Option Nat) (level : Nat) : List Char :=
  match indent with
  | none => []
  | some n => '\n' :: List.replicate (n * level) ' '

/-- What stands between a key and its value. -/
def colon (indent : Option Nat) : List Char :=
  match indent with
  | none => [':']
  | some _ => [':', ' ']

mutual

/-- A value at a level of nesting. -/
def writeAt (indent : Option Nat) (level : Nat) : Datum → List Char
  | .null => "null".toList
  | .bool b => if b then "true".toList else "false".toList
  | .int n => (toString n).toList
  | .float x => (Decimal.text x).toList
  | .text s => writeText s
  | .list [] => ['[', ']']
  | .list (v :: vs) =>
    '[' :: newline indent (level + 1) ++ writeAt indent (level + 1) v ++
      writeItems indent (level + 1) vs ++ newline indent level ++ [']']
  | .table [] => ['\x7b', '\x7d']
  | .table ((k, v) :: es) =>
    '\x7b' :: newline indent (level + 1) ++ writeText k ++ colon indent ++
      writeAt indent (level + 1) v ++ writeEntries indent (level + 1) es ++
      newline indent level ++ ['\x7d']

/-- The items after the first. -/
def writeItems (indent : Option Nat) (level : Nat) : List Datum → List Char
  | [] => []
  | v :: vs => ',' :: newline indent level ++ writeAt indent level v ++ writeItems indent level vs

/-- The entries after the first. -/
def writeEntries (indent : Option Nat) (level : Nat) : Table Empty → List Char
  | [] => []
  | (k, v) :: es =>
    ',' :: newline indent level ++ writeText k ++ colon indent ++ writeAt indent level v ++
      writeEntries indent level es

end

/-- A whole document. -/
def write (indent : Option Nat) (v : Datum) : String := String.ofList (writeAt indent 0 v)

end PerlVet.Json

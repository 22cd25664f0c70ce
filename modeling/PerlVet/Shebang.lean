import PerlVet.Path
import PerlVet.Text.Blank
import PerlVet.Text.Digit

/-!
The interpreter that the first line of a file asks for.
-/

namespace PerlVet.Shebang

/-- A character that may follow the name of the interpreter: part of a version. -/
def isVersionChar (c : Char) : Bool := Text.isDigit c || c == '.' || c == '-'

/-- The last component of a word that is a path. -/
def lastComponent (word : List Char) : String := (Path.ofString (String.ofList word)).name

/-- The name is that of the interpreter, perhaps with something before it and a version after. -/
def namesPerl (name : String) : Bool :=
  "perl".toList.isSuffixOf (Text.dropRightWhile isVersionChar name.toList)

/-- A word that the program finder takes for itself: an option or a variable. -/
def isEnvSetting (word : List Char) : Bool := word.head? == some '-' || word.contains '='

/-- The word that names the interpreter, out of those after the mark. -/
def interpreterWord? : List (List Char) → Option (List Char)
  | [] => none
  | word :: words =>
    if lastComponent word == "env" then words.find? (!isEnvSetting ·) else some word

/-- The text without a byte order mark in front. -/
def dropByteOrderMark : List Char → List Char
  | '\uFEFF' :: cs => cs
  | cs => cs

/-- The line asks for an interpreter, and not for the one this program knows. -/
def isForeign (firstLine : List Char) : Bool :=
  match dropByteOrderMark firstLine with
  | '#' :: '!' :: rest =>
    match interpreterWord? (Text.words rest) with
    | some word => !namesPerl (lastComponent word)
    | none => true
  | _ => false

end PerlVet.Shebang

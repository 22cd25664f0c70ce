/-!
How tables of character names are written down. Neighbouring characters have names that begin
alike, so a table gives, for each name, how many words it shares with the name before it.
-/

namespace PerlVet.Text.CharName

/-- The names of a stretch of characters, in lines and divided by commas. A name is a digit, the
number of words at its start that are those of the name before, and then its other words. A
character without a name has an empty entry. -/
structure Stretch where
  /-- The code of the first character. -/
  first : Nat
  names : List String

/-- The words of a name. -/
abbrev Words := List String

/-- The words of an entry, after a name with the words `before`. -/
def wordsAfter (before : Words) (entry : String) : Words :=
  match entry.toList with
  | [] => before
  | [d] => before.take (d.toNat - '0'.toNat)
  | d :: rest => before.take (d.toNat - '0'.toNat) ++ (String.ofList rest).splitOn " "

/-- The code of the character with the given name, when the entries start at `code` and follow a
name with the words `before`. -/
def find? (name : Words) (code : Nat) (before : Words) : List String → Option Nat
  | [] => none
  | entry :: rest =>
    let here := wordsAfter before entry
    if !entry.isEmpty && here == name then some code else find? name (code + 1) here rest

/-- The entries of a stretch. -/
def Stretch.entries (s : Stretch) : List String := s.names.flatMap (·.splitOn ",")

/-- The code of the character with the given name in a stretch. -/
def Stretch.find? (s : Stretch) (name : Words) : Option Nat :=
  CharName.find? name s.first [] s.entries

end PerlVet.Text.CharName

import PerlVet.Text.CharName.Alphabets
import PerlVet.Text.CharName.Ancient
import PerlVet.Text.CharName.EastAsian
import PerlVet.Text.CharName.Further
import PerlVet.Text.CharName.Pictures
import PerlVet.Text.CharName.Signs
import PerlVet.Text.CharName.Syllabaries
import PerlVet.Text.CharName.Symbols
import PerlVet.Text.Ranges

/-!
Characters by name (Unicode 14). Most names come from tables; those of ideographs hold the code,
and those of Korean syllables are put together from the names of their sounds.
-/

namespace PerlVet.Text

namespace CharName

/-- All stretches of named characters. -/
def stretches : List Stretch :=
  alphabets ++ syllabaries ++ symbols ++ eastAsian ++ ancient ++ signs ++ pictures

/-- What follows `lead` in a text. -/
def after? (lead text : List Char) : Option (List Char) :=
  if lead.isPrefixOf text then some (text.drop lead.length) else none

/-- The number that capital hexadecimal digits write. -/
def code? (digits : List Char) : Option Nat :=
  digits.foldl (fun acc c =>
    acc.bind fun n =>
      if c.isDigit then some (16 * n + (c.toNat - '0'.toNat))
      else if 'A' ≤ c && c ≤ 'F' then some (16 * n + (c.toNat - 'A'.toNat + 10))
      else none) (some 0)

/-- Codes of unified ideographs. -/
def unifiedRanges : List (Nat × Nat) :=
  [(0x3400, 0x4DBF), (0x4E00, 0x9FFF), (0x20000, 0x2A6DF), (0x2A700, 0x2B738), (0x2B740, 0x2B81D),
   (0x2B820, 0x2CEA1), (0x2CEB0, 0x2EBE0), (0x30000, 0x3134A)]

/-- A unified ideograph, by its code in four or five digits. -/
def ideograph? (name : List Char) : Option Nat := do
  let digits ← after? "CJK UNIFIED IDEOGRAPH-".toList name
  guard (digits.length == 4 || digits.length == 5)
  (code? digits).filter (inRanges unifiedRanges)

/-- Characters whose names end in their codes, without leading zeros. -/
def codedRanges : List (String × List (Nat × Nat)) :=
  [("CJK COMPATIBILITY IDEOGRAPH-", [(0xF900, 0xFA6D), (0xFA70, 0xFAD9), (0x2F800, 0x2FA1D)]),
   ("KHITAN SMALL SCRIPT CHARACTER-", [(0x18B00, 0x18CD5)]),
   ("NUSHU CHARACTER-", [(0x1B170, 0x1B2FB)])]

/-- A character whose name ends in its code. -/
def coded? (name : List Char) : Option Nat :=
  codedRanges.findSome? fun (lead, ranges) => do
    let digits ← after? lead.toList name
    guard (digits.head? != some '0')
    (code? digits).filter (inRanges ranges)

/-- The first sounds of Korean syllables. -/
def leadSounds : List String :=
  ["G", "GG", "N", "D", "DD", "R", "M", "B", "BB", "S", "SS", "", "J", "JJ", "C", "K", "T", "P",
   "H"]

/-- The vowels of Korean syllables. -/
def vowels : List String :=
  ["A", "AE", "YA", "YAE", "EO", "E", "YEO", "YE", "O", "WA", "WAE", "OE", "YO", "U", "WEO", "WE",
   "WI", "YU", "EU", "YI", "I"]

/-- The last sounds of Korean syllables. -/
def tailSounds : List String :=
  ["", "G", "GG", "GS", "N", "NJ", "NH", "D", "L", "LG", "LM", "LB", "LS", "LT", "LP", "LH", "M",
   "B", "BS", "S", "SS", "NG", "J", "C", "K", "T", "P", "H"]

/-- The code of the first Korean syllable. -/
def firstSyllable : Nat := 0xAC00

/-- A Korean syllable, by its three sounds. -/
def syllable? (name : List Char) : Option Nat := do
  let sounds ← after? "HANGUL SYLLABLE ".toList name
  let inVowel (c : Char) : Bool := "AEIOUWY".toList.contains c
  let lead := sounds.takeWhile (!inVowel ·)
  let rest := sounds.dropWhile (!inVowel ·)
  let i ← leadSounds.idxOf? (String.ofList lead)
  let j ← vowels.idxOf? (String.ofList (rest.takeWhile inVowel))
  let k ← tailSounds.idxOf? (String.ofList (rest.dropWhile inVowel))
  return firstSyllable + (i * vowels.length + j) * tailSounds.length + k

/-- A variation selector, by its number. -/
def selector? (name : List Char) : Option Nat := do
  let digits ← after? "VS".toList name
  let n ← (List.range' 1 256).find? fun n => (toString n).toList == digits
  return if n ≤ 16 then 0xFE00 + (n - 1) else 0xE0100 + (n - 17)

/-- A character by a further name. -/
def further? (name : String) : Option Nat :=
  (furtherNames.find? fun e => e.2.contains name).map (·.1)

end CharName

/-- The code of the character with the given name. The names of ideographs and Korean syllables
are written in capitals, the case of other names is free. -/
def charNamed? (name : String) : Option Nat :=
  let upper := name.map Char.toUpper
  CharName.ideograph? name.toList <|> CharName.syllable? name.toList <|>
    CharName.coded? upper.toList <|> CharName.selector? upper.toList <|>
    CharName.further? upper <|>
    CharName.stretches.findSome? fun s => s.find? (upper.splitOn " ")

end PerlVet.Text

import PerlVet.Text.Ranges

/-!
White space: the Unicode property together with the four separator controls U+001C to U+001F, and
the trimming and word splitting that go by it.
-/

namespace PerlVet.Text

/-- The 29 blank characters. -/
def blankRanges : List (Nat × Nat) :=
  [(0x09, 0x0D), (0x1C, 0x20), (0x85, 0x85), (0xA0, 0xA0), (0x1680, 0x1680), (0x2000, 0x200A),
   (0x2028, 0x2029), (0x202F, 0x202F), (0x205F, 0x205F), (0x3000, 0x3000)]

/-- A character that counts as white space in program text and interpreter output. -/
def isBlank (c : Char) : Bool := inRanges blankRanges c.toNat

/-- A character with the Unicode property itself, which leaves out the four separator controls. -/
def isSpacing (c : Char) : Bool := isBlank c && !(0x1C ≤ c.toNat && c.toNat ≤ 0x1F)

/-- Drops every last character that satisfies `p`, up to the first that does not. -/
def dropRightWhile (p : Char → Bool) : List Char → List Char
  | [] => []
  | c :: cs =>
    match dropRightWhile p cs with
    | [] => if p c then [] else [c]
    | kept => c :: kept

/-- Removes blanks at the end. -/
def trimRight (cs : List Char) : List Char := dropRightWhile isBlank cs

/-- Removes blanks at both ends. -/
def trim (cs : List Char) : List Char := trimRight (cs.dropWhile isBlank)

/-- The pieces between blanks, without empty ones; `word` is the piece read so far, backwards. -/
def wordsFrom (word : List Char) : List Char → List (List Char)
  | [] => if word.isEmpty then [] else [word.reverse]
  | c :: cs =>
    if isBlank c then
      if word.isEmpty then wordsFrom [] cs else word.reverse :: wordsFrom [] cs
    else wordsFrom (c :: word) cs

/-- The maximal runs of characters that are not blank, in order. -/
def words (cs : List Char) : List (List Char) := wordsFrom [] cs

end PerlVet.Text

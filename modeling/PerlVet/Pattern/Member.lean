import PerlVet.Pattern.Basic
import PerlVet.Text.Blank
import PerlVet.Text.Case
import PerlVet.Text.Word

/-!
The characters that a single-character part of a pattern takes. Where case is ignored, a cased
character stands for all that agree with it but for case; a set with a cased member is asked about
the small form of a character.
-/

namespace PerlVet.Pattern

/-- The small form of a code point, under the repertoire that the flags choose. -/
def foldCode (f : Flags) (n : Nat) : Nat :=
  if f.ascii then (if 0x41 ≤ n && n ≤ 0x5A then n + 32 else n) else Text.lowerCode n

/-- The small letters that share a capital with the small letter `n`, `n` first. -/
def foldFamily (f : Flags) (n : Nat) : List Nat := if f.ascii then [n] else Text.lowerFamily n

/-- The code points that agree with the small form `n` but for case. -/
def foldKin (f : Flags) (n : Nat) : List Nat :=
  if f.ascii then (if 0x61 ≤ n && n ≤ 0x7A then [n, n - 32] else [n]) else Text.caseFamily n

/-- The code point has forms that differ in case. -/
def isCasedCode (f : Flags) (n : Nat) : Bool :=
  if f.ascii then (0x41 ≤ n && n ≤ 0x5A) || (0x61 ≤ n && n ≤ 0x7A) else Text.isCased n

/-- Some code point of a range has forms that differ in case. -/
def anyCasedCode (f : Flags) (lo hi : Nat) : Bool :=
  if f.ascii then (lo ≤ 0x5A && 0x41 ≤ hi) || (lo ≤ 0x7A && 0x61 ≤ hi) else Text.anyCased lo hi

/-- The character `n` is taken as it is written. -/
def isExact (f : Flags) (n : Nat) : Bool := !f.ignoreCase || !isCasedCode f n

/-- The character is the one with code `n`, case being ignored if the flags say so. -/
def sameChar (f : Flags) (n : Nat) (c : Char) : Bool :=
  if isExact f n then n == c.toNat
  else (foldFamily f (foldCode f n)).contains (foldCode f c.toNat)

/-- The character belongs to a class of characters. -/
def Category.holds (f : Flags) : Category → Char → Bool
  | .digit, c => if f.ascii then c.isDigit else Text.isDigit c
  | .space, c => if f.ascii then c.toNat < 0x80 && Text.isSpacing c else Text.isBlank c
  | .word, c => if f.ascii then Text.isAsciiWord c else Text.isWord c

/-- The greatest code point of the basic plane; the members of a set beyond it are compared
without their other forms. -/
def basicPlane : Nat := 0xFFFF

/-- The character belongs to a member of a set. -/
def Item.holds (f : Flags) (c : Char) : Item → Bool
  | .char n => n == c.toNat
  | .range lo hi => lo ≤ c.toNat && c.toNat ≤ hi
  | .category cat negated => cat.holds f c != negated

/-- The member makes its set ask about small forms. -/
def Item.isCased (f : Flags) : Item → Bool
  | .char n => basicPlane < n || isCasedCode f n
  | .range lo hi => basicPlane < hi || anyCasedCode f lo hi
  | .category _ _ => false

/-- The small form `c` of a character belongs to a member of a set. A range that leaves the basic
plane is also asked about the capital form. -/
def Item.holdsSmall (f : Flags) (c : Char) : Item → Bool
  | .char n =>
    let small := foldCode f n
    if basicPlane < small then n == c.toNat else (foldFamily f small).contains c.toNat
  | .range lo hi =>
    (foldKin f c.toNat).any (fun n => lo ≤ n && n ≤ min hi basicPlane) ||
      (basicPlane < hi &&
        ((lo ≤ c.toNat && c.toNat ≤ hi) ||
          (lo ≤ Text.capitalCode c.toNat && Text.capitalCode c.toNat ≤ hi)))
  | .category cat negated => cat.holds f c != negated

/-- The set asks about small forms. -/
def foldsSet (f : Flags) (items : List Item) : Bool := f.ignoreCase && items.any (·.isCased f)

/-- The set takes the character. -/
def setTakes (f : Flags) (negated : Bool) (items : List Item) (c : Char) : Bool :=
  if foldsSet f items then
    let small := Char.ofNat (foldCode f c.toNat)
    items.any (·.holdsSmall f small) != negated
  else items.any (·.holds f c) != negated

/-- The characters that a part takes, if it takes just one. -/
def Node.takes? (f : Flags) : Node → Option (Char → Bool)
  | .char n => some (sameChar f n)
  | .any => some fun c => f.dotAll || c != '\n'
  | .set negated [.char n] => some fun c => sameChar f n c != negated
  | .set negated items => some (setTakes f negated items)
  | _ => none

/-- The part is a set that asks about small forms, or a character that shares its capital with
another one. -/
def Node.isFolded (f : Flags) : Node → Bool
  | .char n | .set _ [.char n] => !isExact f n && 1 < (foldFamily f (foldCode f n)).length
  | .set _ items => foldsSet f items
  | _ => false

end PerlVet.Pattern

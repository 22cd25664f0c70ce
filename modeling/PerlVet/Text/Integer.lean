import PerlVet.Text.Blank
import PerlVet.Text.Digit

/-!
Integers written as text. Plain texts are a minus sign, perhaps, and digits that do not start with
a zero. Other texts are made plain first: blanks around them, a plus sign, zeros in front, a
fraction of zeros, and single underscores are taken away. A text that gets no plain form is no
integer.
-/

namespace PerlVet.Text

/-- Why a text is no integer. -/
inductive IntegerFault where
  | unclear
  /-- It has more than `maxDigits` digits. -/
  | size
  deriving DecidableEq, Repr

/-- The integer that a plain text writes. Too many digits are noticed before anything that may be
wrong after them. -/
def plainInteger (cs : List Char) : Except IntegerFault Int :=
  let (negative, cs) := match cs with
    | '-' :: cs => (true, cs)
    | cs => (false, cs)
  let digits := cs.takeWhile Char.isDigit
  if digits.isEmpty then .error .unclear
  else if digits.head? == some '0' then (if cs == ['0'] then .ok 0 else .error .unclear)
  else if maxDigits < digits.length then .error .size
  else if digits.length != cs.length then .error .unclear
  else .ok (if negative then -(number digits : Int) else number digits)

/-- Takes zeros off the front of a text that starts with `last`, a zero or one of the underscores
among the zeros. A zero before a point is kept, and so is the last one of all. -/
def dropZerosAfter (last : Char) : List Char → Option (List Char)
  | [] => some [last]
  | c :: cs =>
    if c == '0' || c == '_' then dropZerosAfter c cs
    else if c == '.' then some (last :: c :: cs)
    else if c.isDigit || c == '-' then some (c :: cs)
    else none

/-- Takes zeros off the front of a number. -/
def dropLeadingZeros : List Char → Option (List Char)
  | '0' :: cs => dropZerosAfter '0' cs
  | c :: cs => if c.isDigit || c == '-' then some (c :: cs) else none
  | [] => none

/-- Takes off a fraction that consists of zeros. -/
def dropZeroFraction (cs : List Char) : List Char :=
  let whole := cs.takeWhile (· != '.')
  match cs.drop whole.length with
  | '.' :: z :: zs => if (z :: zs).all (· == '0') then whole else cs
  | _ => cs

/-- Two underscores stand side by side. -/
def hasDoubleUnderscore : List Char → Bool
  | '_' :: '_' :: _ => true
  | _ :: cs => hasDoubleUnderscore cs
  | [] => false

/-- Takes out underscores, if each of them stands alone between other characters. -/
def dropUnderscores (cs : List Char) : List Char :=
  if cs.head? == some '_' || cs.getLast? == some '_' || hasDoubleUnderscore cs then cs
  else cs.filter (· != '_')

/-- The plain form of a text, if it can have one. -/
def plainForm? (cs : List Char) : Option (List Char) :=
  let unsigned : Option (List Char) :=
    match dropRightWhile isSpacing (cs.dropWhile isSpacing) with
    | '+' :: '-' :: _ => none
    | '+' :: cs => some cs
    | cs => some cs
  (unsigned.bind dropLeadingZeros).map fun cs => dropUnderscores (dropZeroFraction cs)

/-- The integer that a text writes. -/
def integer (cs : List Char) : Except IntegerFault Int :=
  match plainInteger cs, plainForm? cs with
  | .error .unclear, some plain => plainInteger plain
  | result, _ => result

end PerlVet.Text

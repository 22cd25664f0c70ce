import PerlVet.Decimal.Nearest
import PerlVet.Decimal.Shortest
import PerlVet.Shell.Arithmetic

/-!
Formatted output of the shell: escapes after backslashes, and directives after percent signs, each
of which takes an argument.
-/

namespace PerlVet.Shell

/-- The octal digits at the start of a text, three at most. -/
def octal (cs : List Char) : List Char := (cs.take 3).takeWhile fun c => '0' ≤ c && c ≤ '7'

/-- The byte that octal digits write. -/
def octalByte (digits : List Char) : Char := Char.ofNat ((digitsIn 8 digits).1 % 256)

/-- The character that a letter after a backslash stands for. -/
def letterEscape? : Char → Option Char
  | 'a' => some '\x07'
  | 'b' => some '\x08'
  | 'e' => some '\x1b'
  | 'f' => some '\x0c'
  | 'n' => some '\n'
  | 'r' => some '\r'
  | 't' => some '\t'
  | 'v' => some '\x0b'
  | '\\' => some '\\'
  | _ => none

/-- What stands after a backslash: the character it makes, and how many characters it takes up.
If it makes none, the backslash stands for itself. -/
def escape (cs : List Char) : Char × Nat :=
  let digits := octal cs
  if digits.isEmpty then
    match cs.head?.bind letterEscape? with
    | some c => (c, 1)
    | none => ('\\', 0)
  else (octalByte digits, digits.length)

/-- What stands after a backslash in an argument, where octal digits may follow a zero. -/
def argumentEscape (cs : List Char) : Char × Nat :=
  match cs with
  | '0' :: more =>
    let digits := octal more
    (octalByte digits, digits.length + 1)
  | cs => escape cs

/-- The text with its escapes carried out, and whether one of them ends all output. Characters
that have been read already are skipped. -/
def unescape : Nat → List Char → List Char × Bool
  | _, [] => ([], false)
  | skip + 1, _ :: cs => unescape skip cs
  | 0, c :: cs =>
    if c != '\\' then
      let (text, ended) := unescape 0 cs
      (c :: text, ended)
    else if cs.head? == some 'c' then ([], true)
    else
      let (d, n) := argumentEscape cs
      let (text, ended) := unescape n cs
      (d :: text, ended)

/-- The form that a directive asks for. -/
structure Layout where
  flags : List Char := []
  width : Nat := 0
  precision : Option Nat := none
  deriving DecidableEq, Repr

namespace Layout

/-- A flag is given. -/
def has (l : Layout) (flag : Char) : Bool := l.flags.contains flag

/-- Fills a text up to the width. -/
def fill (l : Layout) (cs : List Char) : List Char :=
  let gap := List.replicate (l.width - cs.length) ' '
  if l.has '-' then cs ++ gap else gap ++ cs

/-- Fills a number with a sign in front up to the width, with zeros after the sign if these are
asked for. -/
def fillNumber (l : Layout) (sign digits : List Char) (zeros : Bool) : List Char :=
  if zeros && l.has '0' && !l.has '-' then
    sign ++ List.replicate (l.width - sign.length - digits.length) '0' ++ digits
  else l.fill (sign ++ digits)

/-- The sign of a number. -/
def sign (l : Layout) (negative : Bool) : List Char :=
  if negative then ['-'] else if l.has '+' then ['+'] else if l.has ' ' then [' '] else []

/-- At least so many digits as the precision says; no digits for zero if it says none. -/
def digits (l : Layout) (n : Nat) (cs : List Char) : List Char :=
  match l.precision with
  | some 0 => if n == 0 then [] else cs
  | some p => List.replicate (p - cs.length) '0' ++ cs
  | none => cs

/-- A number with a sign. -/
def signed (l : Layout) (n : Int) : List Char :=
  l.fillNumber (l.sign (n < 0)) (l.digits n.natAbs (Nat.toDigits 10 n.natAbs)) l.precision.isNone

/-- A number without a sign in the base that a directive stands for. -/
def unsigned (l : Layout) (directive : Char) (n : Nat) : List Char :=
  match directive with
  | 'o' =>
    let cs := l.digits n (Nat.toDigits 8 n)
    l.fillNumber [] (if l.has '#' && cs.head? != some '0' then '0' :: cs else cs)
      l.precision.isNone
  | 'u' => l.fillNumber [] (l.digits n (Nat.toDigits 10 n)) l.precision.isNone
  | d =>
    let mark := if l.has '#' && n != 0 then ['0', 'x'] else []
    let cs := mark ++ l.digits n (Nat.toDigits 16 n)
    let cs := if d == 'X' then cs.map Char.toUpper else cs
    l.fillNumber (cs.take mark.length) (cs.drop mark.length) l.precision.isNone

/-- A text, cut to the precision. -/
def text (l : Layout) (cs : List Char) : List Char :=
  l.fill (match l.precision with
    | some p => cs.take p
    | none => cs)

end Layout

/-- The quotient rounded to the nearest number, halves to an even one. -/
def roundQuotient (num den : Nat) : Nat :=
  let q := num / den
  match compare (2 * (num % den)) den with
  | .lt => q
  | .gt => q + 1
  | .eq => if q % 2 == 0 then q else q + 1

/-- A positive fraction with so many places after the point. -/
def fixedPoint (places : Nat) (alternate : Bool) (num den : Nat) : List Char :=
  let n := roundQuotient (num * Nat.pow 10 places) den
  let cs := Nat.toDigits 10 n
  let cs := List.replicate (places + 1 - cs.length) '0' ++ cs
  let point := if places == 0 && !alternate then [] else ['.']
  cs.take (cs.length - places) ++ point ++ cs.drop (cs.length - places)

/-- The digits of a fraction with so many places after the first, and the exponent of the
first. -/
def scientific (places : Nat) (num den : Nat) : Nat × Int :=
  if num == 0 then (0, 0)
  else
    let e := Decimal.leadingExponent num den - 1
    let shift := (places : Int) - e
    let n := roundQuotient (num * Nat.pow 10 shift.toNat) (den * Nat.pow 10 (-shift).toNat)
    if n ≥ Nat.pow 10 (places + 1) then (n / 10, e + 1) else (n, e)

/-- A fraction with one digit before the point and an exponent. -/
def exponential (places : Nat) (alternate : Bool) (num den : Nat) : List Char :=
  let (n, e) := scientific places num den
  let cs := Nat.toDigits 10 n
  let cs := cs ++ List.replicate (places + 1 - cs.length) '0'
  let point := if places == 0 && !alternate then [] else ['.']
  let magnitude := Nat.toDigits 10 e.natAbs
  let magnitude := if magnitude.length < 2 then '0' :: magnitude else magnitude
  cs.take 1 ++ point ++ cs.drop 1 ++ ['e', if e < 0 then '-' else '+'] ++ magnitude

/-- Drops the zeros at the end of a fraction, and a point with nothing after it. -/
def dropZeros (cs : List Char) : List Char :=
  if cs.contains '.' then
    let kept := cs.reverse.dropWhile (· == '0')
    (if kept.head? == some '.' then kept.drop 1 else kept).reverse
  else cs

/-- A fraction in the shorter of the two forms, with so many digits in all. -/
def general (precision : Nat) (alternate : Bool) (num den : Nat) : List Char :=
  let p := max 1 precision
  let e := (scientific (p - 1) num den).2
  if -4 ≤ e && e < p then
    let cs := fixedPoint ((p : Int) - 1 - e).toNat alternate num den
    if alternate then cs else dropZeros cs
  else
    let cs := exponential (p - 1) alternate num den
    if alternate then cs
    else dropZeros (cs.takeWhile (· != 'e')) ++ cs.dropWhile (· != 'e')

/-- A floating-point number in the form that a directive stands for. -/
def Layout.real (l : Layout) (directive : Char) (x : Float) : List Char :=
  let negative := x.toBits >>> 63 == 1
  let lower := directive.toLower
  let (cs, finite) :=
    if x.isNaN then ("nan".toList, false)
    else if x.isInf then ("inf".toList, false)
    else
      let b := Decimal.Binary.ofBits (x.toBits &&& 0x7FFFFFFFFFFFFFFF)
      let num := b.m * Nat.pow 2 b.q.toNat
      let den := Nat.pow 2 (-b.q).toNat
      let p := l.precision.getD 6
      (if lower == 'f' then fixedPoint p (l.has '#') num den
        else if lower == 'e' then exponential p (l.has '#') num den
        else general p (l.has '#') num den, true)
  let cs := if directive == lower then cs else cs.map Char.toUpper
  l.fillNumber (l.sign negative) cs finite

/-- The floating-point number a text starts with, and what follows it. Without any digit nothing
is read. -/
def leadingReal (cs : List Char) : Float × List Char :=
  let body := cs.dropWhile fun c => leadingNumber.isBlankChar c
  let negative := body.head? == some '-'
  let digits := if negative || body.head? == some '+' then body.drop 1 else body
  let whole := digits.takeWhile Char.isDigit
  let after := digits.drop whole.length
  let part := if after.head? == some '.' then (after.drop 1).takeWhile Char.isDigit else []
  let rest := if after.head? == some '.' then after.drop (1 + part.length) else after
  let word := (digits.takeWhile Char.isAlpha).map Char.toLower
  let signed (x : Float) : Float := if negative then -x else x
  if whole.isEmpty && part.isEmpty then
    if "infinity".toList == word then (signed (1.0 / 0.0), digits.drop 8)
    else if "inf".toList.isPrefixOf word then (signed (1.0 / 0.0), digits.drop 3)
    else if "nan".toList.isPrefixOf word then (signed (0.0 / 0.0), digits.drop 3)
    else (0, cs)
  else
    let mantissa := (digitsIn 10 (whole ++ part)).1
    let scale : Int := part.length
    match exponent? rest with
    | some (e, rest) => (signed (Decimal.nearest mantissa (e - scale)), rest)
    | none => (signed (Decimal.nearest mantissa (-scale)), rest)
where
  /-- The exponent at the start of a text, and what follows it. -/
  exponent? (cs : List Char) : Option (Int × List Char) :=
    match cs with
    | c :: cs =>
      if c == 'e' || c == 'E' then
        let negative := cs.head? == some '-'
        let digits := if negative || cs.head? == some '+' then cs.drop 1 else cs
        match digitsIn 10 digits with
        | (_, 0) => none
        | (n, count) => some (if negative then -n else n, digits.drop count)
      else none
    | [] => none

/-- Formatted output while it is being made. -/
structure Formatted where
  output : List Char := []
  args : List (List Char)
  /-- Complaints about arguments. -/
  warnings : List (List Char) := []
  /-- A fault in the format itself. -/
  fault : Option (List Char) := none
  /-- Nothing more is to be written. -/
  ended : Bool := false

namespace Formatted

/-- Adds output. -/
def add (f : Formatted) (cs : List Char) : Formatted := { f with output := f.output ++ cs }

/-- Takes the next argument; there is always another, empty one. -/
def take (f : Formatted) : List Char × Formatted :=
  (f.args.head?.getD [], { f with args := f.args.tail })

/-- Complains about an argument. -/
def warn (f : Formatted) (arg : List Char) (message : String) : Formatted :=
  { f with warnings := f.warnings ++ [arg ++ ": ".toList ++ message.toList] }

/-- Complains unless all of an argument was read, and the number it writes fits. -/
def checkRead (f : Formatted) (arg rest : List Char) (fits : Bool) : Formatted :=
  if !rest.isEmpty then
    f.warn arg (if rest.length == arg.length then "expected numeric value"
      else "not completely converted")
  else if !fits then f.warn arg "Numerical result out of range"
  else f

/-- The next argument as a number. After a quote, it is the code of a character. -/
def takeNumber (f : Formatted) : Int × Formatted :=
  match f.take with
  | ('"' :: cs, f) | ('\x27' :: cs, f) => (((cs.head?.map Char.toNat).getD 0 : Nat), f)
  | (arg, f) =>
    match leadingNumber numeral arg with
    | (n, rest, fits) => (n, f.checkRead arg rest fits)

/-- The next argument as a number without a sign; negative ones count from the end. -/
def takeNatural (f : Formatted) : Nat × Formatted :=
  match f.take with
  | ('"' :: cs, f) | ('\x27' :: cs, f) => ((cs.head?.map Char.toNat).getD 0, f)
  | (arg, f) =>
    let limit := 18446744073709551616
    let body := arg.dropWhile fun c => leadingNumber.isBlankChar c
    let negative := body.head? == some '-'
    let digits := if negative || body.head? == some '+' then body.drop 1 else body
    match numeral digits with
    | (_, 0) => (0, f.checkRead arg arg true)
    | (n, count) =>
      let value :=
        if n ≥ limit then limit - 1 else if negative then (limit - n) % limit else n
      (value, f.checkRead arg (digits.drop count) (n < limit))

/-- The next argument as a floating-point number. -/
def takeReal (f : Formatted) : Float × Formatted :=
  match f.take with
  | ('"' :: cs, f) | ('\x27' :: cs, f) => (Float.ofNat ((cs.head?.map Char.toNat).getD 0), f)
  | (arg, f) =>
    let (x, rest) := leadingReal arg
    (x, f.checkRead arg rest true)

/-- A count that stands in a format or, for a star, is the next argument. The flag says that it
was negative. -/
def takeCount (f : Formatted) (cs : List Char) : Nat × Bool × List Char × Formatted :=
  match cs with
  | '*' :: cs =>
    let (n, f) := f.takeNumber
    (n.natAbs, n < 0, cs, f)
  | cs =>
    let (n, count) := digitsIn 10 cs
    (n, false, cs.drop count, f)

/-- Carries out a directive; false if there is none by that letter. -/
def convert (f : Formatted) (l : Layout) (directive : Char) : Formatted × Bool :=
  match directive with
  | 'd' | 'i' =>
    let (n, f) := f.takeNumber
    (f.add (l.signed n), true)
  | 'o' | 'u' | 'x' | 'X' =>
    let (n, f) := f.takeNatural
    (f.add (l.unsigned directive n), true)
  | 'c' =>
    let (arg, f) := f.take
    (f.add (l.fill [arg.head?.getD '\x00']), true)
  | 's' =>
    let (arg, f) := f.take
    (f.add (l.text arg), true)
  | 'b' =>
    let (arg, f) := f.take
    let (text, ended) := unescape 0 arg
    ({ f.add (l.text text) with ended }, true)
  | 'e' | 'E' | 'f' | 'F' | 'g' | 'G' =>
    let (x, f) := f.takeReal
    (f.add (l.real directive x), true)
  | _ => (f, false)

/-- The directive that follows a percent sign, and what follows it. -/
def directive (f : Formatted) (cs : List Char) : Formatted × List Char :=
  let flags := cs.takeWhile fun c => "#-+ 0".toList.contains c
  let (width, left, afterWidth, f) := f.takeCount (cs.drop flags.length)
  let flags := if left then '-' :: flags else flags
  let (precision, afterPrecision, f) : Option Nat × List Char × Formatted :=
    match afterWidth with
    | '.' :: cs =>
      let (n, negative, rest, f) := f.takeCount cs
      (if negative then none else some n, rest, f)
    | cs => (none, cs, f)
  match afterPrecision with
  | [] => ({ f with fault := some "missing format character".toList }, [])
  | d :: rest =>
    match f.convert { flags, width, precision } d with
    | (f, true) => (f, rest)
    | (f, false) =>
      let written := cs.take (cs.length - rest.length)
      ({ f with fault := some ('%' :: written ++ ": invalid directive".toList) }, [])

/-- One pass through a format. -/
def pass : Nat → List Char → Formatted → Formatted
  | 0, _, f => f
  | fuel + 1, cs, f =>
    if f.ended || f.fault.isSome then f
    else
      match cs with
      | [] => f
      | '\\' :: cs =>
        let (c, n) := escape cs
        pass fuel (cs.drop n) (f.add [c])
      | '%' :: '%' :: cs => pass fuel cs (f.add ['%'])
      | '%' :: cs =>
        let (f, rest) := f.directive cs
        pass fuel rest f
      | c :: cs => pass fuel cs (f.add [c])

/-- The format is used again as long as it takes arguments and some are left. -/
def passes (fmt : List Char) : Nat → Formatted → Formatted
  | 0, f => f
  | fuel + 1, f =>
    let g := pass (fmt.length + 1) fmt f
    if g.args.isEmpty || g.args.length == f.args.length || g.ended || g.fault.isSome then g
    else passes fmt fuel g

end Formatted

/-- The output of a format with arguments. -/
def format (fmt : List Char) (args : List (List Char)) : Formatted :=
  Formatted.passes fmt (args.length + 1) { args }

/-- The arguments in a line, with their escapes carried out. A first argument `-n` leaves the
newline out. -/
def echo (args : List (List Char)) : List Char :=
  let (args, ending) := match args with
    | ['-', 'n'] :: rest => (rest, [])
    | args => (args, ['\n'])
  let (text, ended) := unescape 0 ([' '].intercalate args)
  if ended then text else text ++ ending

end PerlVet.Shell

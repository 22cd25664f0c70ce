import PerlVet.Decimal.Nearest
import PerlVet.Value

/-!
Reading JSON documents. The grammar is the strict one, together with the three names for numbers
that are not finite; of two entries with one key the later value counts.
-/

namespace PerlVet.Json

/-- The most containers that may be open at once, empty ones not counted. -/
def maxDepth : Nat := 200

/-- The most digits an integer may have. -/
def maxDigits : Nat := 4300

/-- Blanks between tokens. -/
def isSpace (c : Char) : Bool := c == ' ' || c == '\n' || c == '\r' || c == '\t'

/-- Drops blanks. -/
def skip (cs : List Char) : List Char := cs.dropWhile isSpace

/-- The value of a hexadecimal digit. -/
def hexValue? (c : Char) : Option Nat :=
  if '0' ≤ c && c ≤ '9' then some (c.toNat - 48)
  else if 'a' ≤ c && c ≤ 'f' then some (c.toNat - 87)
  else if 'A' ≤ c && c ≤ 'F' then some (c.toNat - 55)
  else none

/-- The code unit that four hexadecimal digits write. -/
def unit? (a b c d : Char) : Option Nat := do
  return ((← hexValue? a) * 16 + (← hexValue? b)) * 256 + (← hexValue? c) * 16 + (← hexValue? d)

/-- The character an escape letter stands for. -/
def escaped? : Char → Option Char
  | '"' => some '"'
  | '\\' => some '\\'
  | '/' => some '/'
  | 'b' => some '\x08'
  | 'f' => some '\x0c'
  | 'n' => some '\n'
  | 'r' => some '\r'
  | 't' => some '\t'
  | _ => none

/-- The rest of a text after its opening quote: the characters, and what follows the closing
quote. A character beyond U+FFFF may be written as a pair of code units; half a pair is refused,
and so is a bare control character. -/
def readText : List Char → Option (List Char × List Char)
  | [] => none
  | '"' :: cs => some ([], cs)
  | '\\' :: 'u' :: a :: b :: c :: d :: cs =>
    match unit? a b c d with
    | none => none
    | some n =>
      if 0xD800 ≤ n && n < 0xDC00 then
        match cs with
        | '\\' :: 'u' :: a :: b :: c :: d :: cs =>
          match unit? a b c d with
          | none => none
          | some m =>
            if 0xDC00 ≤ m && m < 0xE000 then
              (readText cs).map fun (t, rest) =>
                (Char.ofNat (0x10000 + (n - 0xD800) * 0x400 + (m - 0xDC00)) :: t, rest)
            else none
        | _ => none
      else if 0xDC00 ≤ n && n < 0xE000 then none
      else (readText cs).map fun (t, rest) => (Char.ofNat n :: t, rest)
  | '\\' :: e :: cs =>
    match escaped? e with
    | none => none
    | some c => (readText cs).map fun (t, rest) => (c :: t, rest)
  | c :: cs =>
    if c.toNat < 0x20 || c == '\\' then none
    else (readText cs).map fun (t, rest) => (c :: t, rest)

/-- The number that decimal digits write. -/
def digitsValue (cs : List Char) : Nat := cs.foldl (fun n c => 10 * n + (c.toNat - 48)) 0

/-- The fraction of a number: its digits, and what follows; no fraction has no digits. -/
def readFraction : List Char → Option (List Char × List Char)
  | '.' :: cs =>
    let digits := cs.takeWhile Char.isDigit
    if digits.isEmpty then none else some (digits, cs.drop digits.length)
  | cs => some ([], cs)

/-- The digits of an exponent after its sign. -/
def readExponentDigits (negative : Bool) (cs : List Char) : Option (Option Int × List Char) :=
  let digits := cs.takeWhile Char.isDigit
  if digits.isEmpty then none
  else
    let n : Int := digitsValue digits
    some (some (if negative then -n else n), cs.drop digits.length)

/-- The exponent of a number, if it has one, and what follows. -/
def readExponent : List Char → Option (Option Int × List Char)
  | 'e' :: '+' :: cs | 'E' :: '+' :: cs => readExponentDigits false cs
  | 'e' :: '-' :: cs | 'E' :: '-' :: cs => readExponentDigits true cs
  | 'e' :: cs | 'E' :: cs => readExponentDigits false cs
  | cs => some (none, cs)

/-- A number after its sign, and what follows. It is an integer if it has neither fraction nor
exponent. -/
def readNumber (negative : Bool) (cs : List Char) : Option (Datum × List Char) :=
  let digits := cs.takeWhile Char.isDigit
  let rest := cs.drop digits.length
  if digits.isEmpty || (digits.head? == some '0' && digits.length != 1) then none
  else
    match readFraction rest with
    | none => none
    | some (fraction, rest') =>
      match readExponent rest' with
      | none => none
      | some (exponent, rest'') =>
        if fraction.isEmpty && exponent.isNone then
          if digits.length > maxDigits then none
          else
            let n : Int := digitsValue digits
            some (.int (if negative then -n else n), rest'')
        else
          let x :=
            Decimal.nearest (digitsValue (digits ++ fraction)) (exponent.getD 0 - fraction.length)
          some (.float (if negative then -x else x), rest'')

mutual

/-- A value, and what follows it. `depth` more containers may be opened. -/
def readValue : Nat → Nat → List Char → Option (Datum × List Char)
  | 0, _, _ => none
  | fuel + 1, depth, cs =>
    match skip cs with
    | '"' :: cs => (readText cs).map fun (t, rest) => (.text (String.ofList t), rest)
    | '[' :: cs =>
      match skip cs with
      | ']' :: cs => some (.list [], cs)
      | cs =>
        if depth == 0 then none
        else (readItems fuel (depth - 1) cs).map fun (vs, rest) => (.list vs, rest)
    | '\x7b' :: cs =>
      match skip cs with
      | '\x7d' :: cs => some (.table [], cs)
      | cs =>
        if depth == 0 then none
        else (readEntries fuel (depth - 1) [] cs).map fun (t, rest) => (.table t, rest)
    | 't' :: 'r' :: 'u' :: 'e' :: cs => some (.bool true, cs)
    | 'f' :: 'a' :: 'l' :: 's' :: 'e' :: cs => some (.bool false, cs)
    | 'n' :: 'u' :: 'l' :: 'l' :: cs => some (.null, cs)
    | 'N' :: 'a' :: 'N' :: cs => some (.float (0.0 / 0.0), cs)
    | 'I' :: 'n' :: 'f' :: 'i' :: 'n' :: 'i' :: 't' :: 'y' :: cs => some (.float (1.0 / 0.0), cs)
    | '-' :: 'I' :: 'n' :: 'f' :: 'i' :: 'n' :: 'i' :: 't' :: 'y' :: cs =>
      some (.float (-1.0 / 0.0), cs)
    | '-' :: cs => readNumber true cs
    | cs => readNumber false cs

/-- The items of a list after its opening bracket, and what follows the closing one. -/
def readItems : Nat → Nat → List Char → Option (List Datum × List Char)
  | 0, _, _ => none
  | fuel + 1, depth, cs =>
    match readValue fuel depth cs with
    | none => none
    | some (v, rest) =>
      match skip rest with
      | ']' :: rest => some ([v], rest)
      | ',' :: rest => (readItems fuel depth rest).map fun (vs, rest) => (v :: vs, rest)
      | _ => none

/-- The entries of a table after its opening brace and after `read` entries, and what follows the
closing brace. -/
def readEntries : Nat → Nat → Table Empty → List Char → Option (Table Empty × List Char)
  | 0, _, _, _ => none
  | fuel + 1, depth, read, cs =>
    match skip cs with
    | '"' :: cs =>
      match readText cs with
      | none => none
      | some (key, rest) =>
        match skip rest with
        | ':' :: rest =>
          match readValue fuel depth rest with
          | none => none
          | some (v, rest) =>
            let read := read.put (String.ofList key) v
            match skip rest with
            | '\x7d' :: rest => some (read, rest)
            | ',' :: rest => readEntries fuel depth read rest
            | _ => none
        | _ => none
    | _ => none

end

/-- The value a whole document holds; nothing but blanks may follow it. -/
def read (cs : List Char) : Option Datum :=
  match readValue (cs.length + 1) maxDepth cs with
  | some (v, rest) => if (skip rest).isEmpty then some v else none
  | none => none

end PerlVet.Json

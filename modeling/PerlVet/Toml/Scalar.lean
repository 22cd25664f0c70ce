import PerlVet.Decimal.Nearest
import PerlVet.Json.Reader
import PerlVet.Toml.Basic

/-!
Reading the scalars of TOML documents: texts, numbers, dates and times. Every reader returns what
it read and the rest of the text.
-/

namespace PerlVet.Toml

/-- A control character. -/
def isControl (c : Char) : Bool := c.toNat < 0x20 || c.toNat == 0x7F

/-- A control character that may not stand in a line. -/
def isBad (c : Char) : Bool := isControl c && c != '\t'

/-- A blank within a line. -/
def isSpace (c : Char) : Bool := c == ' ' || c == '\t'

/-- A blank or a newline. -/
def isGap (c : Char) : Bool := isSpace c || c == '\n'

/-- Drops blanks within a line. -/
def skipSpace (cs : List Char) : List Char := cs.dropWhile isSpace

/-- Drops a comment, which must not hold a control character. -/
def skipComment (cs : List Char) : Option (List Char) :=
  match cs with
  | '#' :: cs =>
    let comment := cs.takeWhile (· != '\n')
    if comment.any isBad then none else some (cs.drop comment.length)
  | cs => some cs

/-- Drops blanks, newlines and comments. -/
def skipGaps : Nat → List Char → Option (List Char)
  | 0, cs => some cs
  | fuel + 1, cs =>
    let cs := cs.dropWhile isGap
    match cs with
    | '#' :: _ => (skipComment cs).bind (skipGaps fuel)
    | cs => some cs

/-- The character that hexadecimal digits write. -/
def hexChar? (digits : List Char) : Option Char := do
  let values ← digits.mapM Json.hexValue?
  let n := values.foldl (fun n d => 16 * n + d) 0
  if n < 0xD800 || (0xE000 ≤ n && n ≤ 0x10FFFF) then some (Char.ofNat n) else none

/-- The character that a letter after a backslash stands for. -/
def escaped? : Char → Option Char
  | 'b' => some '\x08'
  | 't' => some '\t'
  | 'n' => some '\n'
  | 'f' => some '\x0c'
  | 'r' => some '\r'
  | '"' => some '"'
  | '\\' => some '\\'
  | _ => none

/-- The rest of a line that ends in a backslash: nothing but blanks may follow it, and the blanks
and newlines after it do not count. -/
def lineJoin? (cs : List Char) : Option (List Char) :=
  match skipSpace cs with
  | '\n' :: cs => some (cs.dropWhile isGap)
  | [] => some []
  | _ => none

/-- The characters of a text in double quotes, after the opening ones. -/
def basicText (multiline : Bool) : Nat → List Char → Option (List Char × List Char)
  | 0, _ => none
  | fuel + 1, cs =>
    let andThen (c : Char) (rest : List Char) : Option (List Char × List Char) :=
      (basicText multiline fuel rest).map fun (t, rest) => (c :: t, rest)
    match cs with
    | [] => none
    | '"' :: rest =>
      if multiline then
        match rest with
        | '"' :: '"' :: rest => some ([], rest)
        | rest => andThen '"' rest
      else some ([], rest)
    | '\\' :: 'u' :: rest =>
      if rest.length < 4 then none
      else (hexChar? (rest.take 4)).bind fun c => andThen c (rest.drop 4)
    | '\\' :: 'U' :: rest =>
      if rest.length < 8 then none
      else (hexChar? (rest.take 8)).bind fun c => andThen c (rest.drop 8)
    | '\\' :: e :: rest =>
      if multiline && isGap e then (lineJoin? (e :: rest)).bind (basicText multiline fuel)
      else (escaped? e).bind fun c => andThen c rest
    | c :: rest =>
      if c == '\\' || (isBad c && !(multiline && c == '\n')) then none else andThen c rest

/-- The characters of a text in single quotes, after the opening one. -/
def literalText (cs : List Char) : Option (List Char × List Char) :=
  let text := cs.takeWhile (· != '\x27')
  match cs.drop text.length with
  | _ :: rest => if text.any isBad then none else some (text, rest)
  | [] => none

/-- The characters of a text in three single quotes, after the opening ones. -/
def literalLines : List Char → Option (List Char × List Char)
  | [] => none
  | '\x27' :: '\x27' :: '\x27' :: rest => some ([], rest)
  | c :: rest =>
    if isBad c && c != '\n' then none
    else (literalLines rest).map fun (t, rest) => (c :: t, rest)

/-- Up to two quotes right after the closing ones belong to the text. -/
def extraQuotes (quote : Char) (text rest : List Char) : List Char × List Char :=
  let extra := (rest.take 2).takeWhile (· == quote)
  (text ++ extra, rest.drop extra.length)

/-- A newline right after the opening quotes does not count. -/
def dropFirstNewline : List Char → List Char
  | '\n' :: cs => cs
  | cs => cs

/-- A text in quotes. -/
def readText (cs : List Char) : Option (List Char × List Char) :=
  match cs with
  | '"' :: '"' :: '"' :: rest =>
    (basicText true (rest.length + 1) (dropFirstNewline rest)).map fun (t, rest) =>
      extraQuotes '"' t rest
  | '"' :: rest => basicText false (rest.length + 1) rest
  | '\x27' :: '\x27' :: '\x27' :: rest =>
    (literalLines (dropFirstNewline rest)).map fun (t, rest) => extraQuotes '\x27' t rest
  | '\x27' :: rest => literalText rest
  | _ => none

/-- Digits with single underscores between them, after the first digit. -/
def moreDigits (ok : Char → Bool) : List Char → List Char × List Char
  | '_' :: c :: cs =>
    if ok c then
      let (ds, rest) := moreDigits ok cs
      (c :: ds, rest)
    else ([], '_' :: c :: cs)
  | c :: cs =>
    if ok c then
      let (ds, rest) := moreDigits ok cs
      (c :: ds, rest)
    else ([], c :: cs)
  | [] => ([], [])

/-- Digits with single underscores between them. -/
def digits? (ok : Char → Bool) : List Char → Option (List Char × List Char)
  | c :: cs =>
    if ok c then
      let (ds, rest) := moreDigits ok cs
      some (c :: ds, rest)
    else none
  | [] => none

/-- The number that digits write in a base. -/
def valueIn (base : Nat) (ds : List Char) : Nat :=
  ds.foldl (fun n c => base * n + (Json.hexValue? c).getD 0) 0

/-- The base that a letter after a zero announces, and its digits. -/
def base? : Char → Option (Nat × (Char → Bool))
  | 'x' => some (16, fun c => (Json.hexValue? c).isSome)
  | 'o' => some (8, fun c => '0' ≤ c && c ≤ '7')
  | 'b' => some (2, fun c => c == '0' || c == '1')
  | _ => none

/-- The whole part of a decimal number: no zero in front of other digits. -/
def wholePart? : List Char → Option (List Char × List Char)
  | '0' :: cs => some (['0'], cs)
  | cs => digits? Char.isDigit cs

/-- A fraction, if there is one. -/
def fraction? : List Char → Option (List Char × List Char)
  | '.' :: cs => digits? Char.isDigit cs
  | _ => none

/-- An exponent, if there is one. -/
def exponent? : List Char → Option (Int × List Char)
  | e :: cs =>
    if e == 'e' || e == 'E' then
      let (negative, cs) := match cs with
        | '-' :: cs => (true, cs)
        | '+' :: cs => (false, cs)
        | cs => (false, cs)
      (digits? Char.isDigit cs).map fun (ds, rest) =>
        ((if negative then -(valueIn 10 ds : Int) else valueIn 10 ds), rest)
    else none
  | [] => none

/-- A decimal number after its sign. -/
def decimal (negative : Bool) (cs : List Char) : Except Fault (Content × List Char) :=
  match wholePart? cs with
  | none => .error .rules
  | some (whole, rest) =>
    let fraction := fraction? rest
    let rest := (fraction.map (·.2)).getD rest
    let exponent := exponent? rest
    let rest := (exponent.map (·.2)).getD rest
    if fraction.isNone && exponent.isNone then
      if whole.length > Text.maxDigits then .error (.digits ⟨whole.length⟩)
      else
        let n : Int := valueIn 10 whole
        .ok (.int (if negative then -n else n), rest)
    else
      let places := (fraction.map (·.1)).getD []
      let x := Decimal.nearest (valueIn 10 (whole ++ places))
        ((exponent.map (·.1)).getD 0 - places.length)
      .ok (.float (if negative then -x else x), rest)

/-- The named numbers that are not finite. -/
def namedNumber? (negative : Bool) : List Char → Option (Content × List Char)
  | 'i' :: 'n' :: 'f' :: rest => some (.float (if negative then -1.0 / 0.0 else 1.0 / 0.0), rest)
  | 'n' :: 'a' :: 'n' :: rest => some (.float (0.0 / 0.0), rest)
  | _ => none

/-- A number. -/
def readNumber (cs : List Char) : Except Fault (Content × List Char) :=
  let signed (negative : Bool) (cs : List Char) : Except Fault (Content × List Char) :=
    match namedNumber? negative cs with
    | some r => .ok r
    | none => decimal negative cs
  match cs with
  | '+' :: cs => signed false cs
  | '-' :: cs => signed true cs
  | '0' :: letter :: rest =>
    match (base? letter).bind fun (base, ok) => (digits? ok rest).map fun r => (base, r) with
    | some (base, ds, rest) => .ok (.int (valueIn base ds), rest)
    | none => decimal false cs
  | cs => signed false cs

/-- A number of two digits that is at most `most`. -/
def twoDigits? (most : Nat) : List Char → Option (Nat × List Char)
  | a :: b :: rest =>
    let n := (a.toNat - 48) * 10 + (b.toNat - 48)
    if a.isDigit && b.isDigit && n ≤ most then some (n, rest) else none
  | _ => none

/-- The character `c` in front of a text. -/
def expect? (c : Char) : List Char → Option (List Char)
  | d :: rest => if d == c then some rest else none
  | [] => none

/-- A time of day; what follows it. -/
def time? (cs : List Char) : Option (List Char) := do
  let (_, cs) ← twoDigits? 23 cs
  let (_, cs) ← twoDigits? 59 (← expect? ':' cs)
  let (_, cs) ← twoDigits? 59 (← expect? ':' cs)
  match cs with
  | '.' :: d :: rest => if d.isDigit then some (rest.dropWhile Char.isDigit) else some cs
  | cs => some cs

/-- An offset from universal time, if there is one; what follows it. -/
def dropOffset (cs : List Char) : List Char :=
  match cs with
  | 'Z' :: rest | 'z' :: rest => rest
  | '+' :: rest | '-' :: rest =>
    match twoDigits? 23 rest with
    | some (_, ':' :: rest') =>
      match twoDigits? 59 rest' with
      | some (_, rest'') => rest''
      | none => cs
    | _ => cs
  | cs => cs

/-- The number of days in a month. -/
def daysIn (year month : Nat) : Nat :=
  if month == 2 then
    if (year % 4 == 0 && year % 100 != 0) || year % 400 == 0 then 29 else 28
  else if month == 4 || month == 6 || month == 9 || month == 11 then 30
  else 31

/-- A date as it is written: whether the calendar has it, and what follows it. -/
def date? (cs : List Char) : Option (Bool × List Char) := do
  let year := cs.take 4
  if year.length < 4 || year.any (!·.isDigit) then none
  let (month, cs) ← twoDigits? 12 (← expect? '-' (cs.drop 4))
  let (day, cs) ← twoDigits? 31 (← expect? '-' cs)
  if month == 0 || day == 0 then none
  let year := valueIn 10 year
  some (year != 0 && day ≤ daysIn year month, cs)

/-- A date with a time, a date, or a time. -/
def moment? (cs : List Char) : Option (Option Moment × List Char) :=
  match date? cs with
  | some (valid, rest) =>
    let (moment, rest) :=
      match rest with
      | sep :: after =>
        if sep == 'T' || sep == 't' || sep == ' ' then
          match time? after with
          | some rest' => (Moment.dateTime, dropOffset rest')
          | none => (Moment.date, rest)
        else (Moment.date, rest)
      | [] => (Moment.date, rest)
    some (if valid then some moment else none, rest)
  | none => (time? cs).map fun rest => (some .time, rest)

end PerlVet.Toml

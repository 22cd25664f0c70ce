import PerlVet.Shell.Machine

/-!
Arithmetic expressions of the shell: numbers of 64 bits, variables, and the usual operators, among
them assignments.
-/

namespace PerlVet.Shell

/-- A part of an expression as it is written. -/
inductive Token where
  | number (n : Int64)
  | name (s : String)
  | sign (s : String)
  deriving DecidableEq, Repr

/-- An expression. -/
inductive Expr where
  | number (n : Int64)
  | name (s : String)
  | unary (sign : String) (a : Expr)
  | binary (sign : String) (a b : Expr)
  | choice (test yes no : Expr)
  /-- Sets a variable to a value, or to what an operator makes of its old one and a value. -/
  | set (name : String) (sign : Option String) (a : Expr)
  /-- Something else stands where an expression should. -/
  | broken (message : String)
  /-- Something else follows an expression than should. -/
  | cutOff (a : Expr) (message : String)

/-- The value of a digit, of letters too. -/
def digitValue? (c : Char) : Option Nat :=
  if c.isDigit then some (c.toNat - 48)
  else if 'a' ≤ c && c ≤ 'f' then some (c.toNat - 87)
  else if 'A' ≤ c && c ≤ 'F' then some (c.toNat - 55)
  else none

/-- The number that the digits of a text in a base write, and how many digits they are. -/
def digitsIn (base : Nat) (cs : List Char) : Nat × Nat :=
  let digits := cs.takeWhile fun c => (digitValue? c).any (· < base)
  (digits.foldl (fun n c => base * n + (digitValue? c).getD 0) 0, digits.length)

/-- The number a text starts with, and how many characters it has: hexadecimal after `0x`, octal
after `0`, else decimal. -/
def numeral (cs : List Char) : Nat × Nat :=
  match cs with
  | '0' :: x :: rest =>
    if x == 'x' || x == 'X' then
      match digitsIn 16 rest with
      | (_, 0) => (0, 1)
      | (n, count) => (n, count + 2)
    else digitsIn 8 cs
  | cs => digitsIn 10 cs

/-- The largest number. -/
def maxNumber : Int := 9223372036854775807

/-- The smallest number. -/
def minNumber : Int := -9223372036854775808

/-- A number a text starts with after blanks and a sign, limited to what fits, what follows it,
and whether it fits. Without any digit nothing is read. -/
def leadingNumber (numeral : List Char → Nat × Nat) (cs : List Char) : Int × List Char × Bool :=
  let body := cs.dropWhile fun c => isBlankChar c
  let negative := body.head? == some '-'
  let digits := if negative || body.head? == some '+' then body.drop 1 else body
  match numeral digits with
  | (_, 0) => (0, cs, true)
  | (n, count) =>
    let value : Int := if negative then -n else n
    (max minNumber (min maxNumber value), digits.drop count,
      minNumber ≤ value && value ≤ maxNumber)
where
  /-- Blanks in front of a number. -/
  isBlankChar (c : Char) : Bool := c == ' ' || ('\t' ≤ c && c ≤ '\r')

/-- The signs of operators, longer ones before their beginnings. -/
def signs : List String :=
  ["<<=", ">>=", "<<", ">>", "<=", ">=", "==", "!=", "&&", "||", "+=", "-=", "*=", "/=", "%=",
   "&=", "|=", "^="]

/-- The parts of an expression after skipping characters that have been read already. -/
def tokens : Nat → List Char → List Token
  | _, [] => []
  | skip + 1, _ :: cs => tokens skip cs
  | 0, c :: cs =>
    if c == ' ' || c == '\t' || c == '\n' then tokens 0 cs
    else if c.isDigit then
      match numeral (c :: cs) with
      | (n, count) => .number (Int64.ofInt (min maxNumber n)) :: tokens (count - 1) cs
    else if c.isAlpha || c == '_' then
      let name := (c :: cs).takeWhile fun d => d.isAlphanum || d == '_'
      .name (String.ofList name) :: tokens (name.length - 1) cs
    else
      match signs.find? fun s => s.toList.isPrefixOf (c :: cs) with
      | some s => .sign s :: tokens (s.length - 1) cs
      | none => .sign (String.singleton c) :: tokens 0 cs

/-- The binary operators, those that bind weakest first. -/
def levels : List (List String) :=
  [["||"], ["&&"], ["|"], ["^"], ["&"], ["==", "!="], ["<", "<=", ">", ">="], ["<<", ">>"],
   ["+", "-"], ["*", "/", "%"]]

/-- The signs of assignments, with the operators they apply. -/
def assignments : List (String × Option String) :=
  ("=", none) ::
    ["<<", ">>", "+", "-", "*", "/", "%", "&", "|", "^"].map fun s => (s ++ "=", some s)

/-- An expression, and what follows it unless it is broken. -/
abbrev Parsed := Expr × Option (List Token)

/-- A place where an operand should stand. -/
def noOperand : Parsed := (.broken "expecting primary", none)

mutual

/-- Any expression. -/
def readExpr : Nat → List Token → Parsed
  | 0, _ => noOperand
  | fuel + 1, ts =>
    match ts with
    | .name x :: .sign s :: rest =>
      match assignments.lookup s with
      | some op =>
        let (a, rest) := readExpr fuel rest
        (.set x op a, rest)
      | none => readChoice fuel ts
    | ts => readChoice fuel ts

/-- A choice, or an expression of operators. -/
def readChoice : Nat → List Token → Parsed
  | 0, _ => noOperand
  | fuel + 1, ts =>
    match readLevel fuel levels ts with
    | (test, some (.sign "?" :: rest)) =>
      match readExpr fuel rest with
      | (yes, some (.sign ":" :: rest)) =>
        let (no, rest) := readChoice fuel rest
        (.choice test yes no, rest)
      | (yes, some _) => (.choice test yes (.broken "expecting ':'"), none)
      | (yes, none) => (.choice test yes (.number 0), none)
    | parsed => parsed

/-- An expression of operators, the first of which bind weakest. -/
def readLevel : Nat → List (List String) → List Token → Parsed
  | 0, _, _ => noOperand
  | fuel + 1, [], ts => readPrimary fuel ts
  | fuel + 1, ops :: tighter, ts =>
    match readLevel fuel tighter ts with
    | (a, some rest) => readMore fuel ops tighter a rest
    | parsed => parsed

/-- Further operands of operators that bind alike, after a first operand. -/
def readMore : Nat → List String → List (List String) → Expr → List Token → Parsed
  | 0, _, _, _, _ => noOperand
  | fuel + 1, ops, tighter, a, ts =>
    match ts with
    | .sign s :: rest =>
      if ops.contains s then
        match readLevel fuel tighter rest with
        | (b, some rest) => readMore fuel ops tighter (.binary s a b) rest
        | (b, none) => (.binary s a b, none)
      else (a, some ts)
    | ts => (a, some ts)

/-- An operand. -/
def readPrimary : Nat → List Token → Parsed
  | 0, _ => noOperand
  | fuel + 1, ts =>
    match ts with
    | .number n :: rest => (.number n, some rest)
    | .name x :: rest => (.name x, some rest)
    | .sign "(" :: rest =>
      match readExpr fuel rest with
      | (a, some (.sign ")" :: rest)) => (a, some rest)
      | (a, some _) => (.cutOff a "expecting ')'", none)
      | parsed => parsed
    | .sign s :: rest =>
      if ["+", "-", "!", "~"].contains s then
        let (a, rest) := readPrimary fuel rest
        (.unary s a, rest)
      else noOperand
    | [] => noOperand

end

/-- What is wrong with an expression. -/
def Expr.wrong? : Expr → Option String
  | number _ | name _ => none
  | broken message | cutOff _ message => some message
  | unary _ a | set _ _ a => a.wrong?
  | binary _ a b => a.wrong?.orElse fun _ => b.wrong?
  | choice a b c => (a.wrong?.orElse fun _ => b.wrong?).orElse fun _ => c.wrong?

/-- The expression that a text writes. -/
def parseExpr (cs : List Char) : Expr :=
  let ts := tokens 0 cs
  match readExpr (16 * ts.length + 32) ts with
  | (a, some (_ :: _)) => .cutOff a "expecting EOF"
  | (a, _) => a

/-- One for yes, zero for no. -/
def ofBool (b : Bool) : Int64 := if b then 1 else 0

/-- The value of a unary operator. -/
def unaryValue (sign : String) (a : Int64) : Int64 :=
  match sign with
  | "-" => -a
  | "!" => ofBool (a == 0)
  | "~" => ~~~a
  | _ => a

/-- The value of a binary operator on operands that are both wanted; none if it divides by
zero. -/
def binaryValue? (sign : String) (a b : Int64) : Option Int64 :=
  match sign with
  | "|" => some (a ||| b)
  | "^" => some (a ^^^ b)
  | "&" => some (a &&& b)
  | "==" => some (ofBool (a == b))
  | "!=" => some (ofBool (a != b))
  | "<" => some (ofBool (a < b))
  | "<=" => some (ofBool (a ≤ b))
  | ">" => some (ofBool (a > b))
  | ">=" => some (ofBool (a ≥ b))
  | "<<" => some (a <<< b)
  | ">>" => some (a >>> b)
  | "+" => some (a + b)
  | "-" => some (a - b)
  | "*" => some (a * b)
  | "/" => if b == 0 then none else some (a / b)
  | "%" => if b == 0 then none else some (a % b)
  | _ => none

/-- The number that a text is, blanks at its end apart. -/
def numberOf? (numeral : List Char → Nat × Nat) (mayBeBlank : Bool) (cs : List Char) :
    Option Int :=
  match leadingNumber numeral cs with
  | (n, rest, fits) =>
    let after := rest.dropWhile fun c => leadingNumber.isBlankChar c
    if fits && after.isEmpty && (mayBeBlank || rest.length < cs.length) then some n else none

/-- The value of a variable as a number. -/
def numberIn (name : String) : Run Int64 := do
  let text := ((← get).lookup? name).getD []
  match numberOf? numeral true text with
  | some n => return Int64.ofInt n
  | none => faultIn "Illegal number".toList (String.ofList text)

/-- The value of an expression, which `text` writes. What stands before a fault takes effect. -/
def Expr.eval (text : List Char) : Expr → Run Int64
  | number n => return n
  | name x => numberIn x
  | broken message => wrong text message
  | cutOff a message => do
    let _ ← a.eval text
    wrong text message
  | unary sign a => return unaryValue sign (← a.eval text)
  | choice test yes no => do
    if (← test.eval text) != 0 then yes.eval text else no.eval text
  | binary sign a b => do
    let x ← a.eval text
    if sign == "&&" then
      if x == 0 then return 0 else return ofBool ((← b.eval text) != 0)
    else if sign == "||" then
      if x != 0 then return 1 else return ofBool ((← b.eval text) != 0)
    else divide (binaryValue? sign x (← b.eval text))
  | set x sign a => do
    let y ← a.eval text
    let value ← match sign with
      | none => pure y
      | some s => do divide (binaryValue? s (← numberIn x) y)
    assign x (toString value.toInt).toList
    return value
where
  /-- A value; dividing by zero leaves none. -/
  divide : Option Int64 → Run Int64
    | some n => return n
    | none => wrong text "division by zero"
  /-- Gives up on an expression. -/
  wrong {α : Type} (text : List Char) (message : String) : Run α :=
    faultIn ("arithmetic expression: ".toList ++ message.toList)
      ("\"" ++ String.ofList text ++ "\"")

/-- The value of the expression that a text writes. A fault counts even in a part whose value is
not needed. -/
def evaluate (text : List Char) : Run (List Char) := do
  let e := parseExpr text
  let value ← e.eval text
  match e.wrong? with
  | some message => Expr.eval.wrong text message
  | none => return (toString value.toInt).toList

end PerlVet.Shell

/-!
The shortest decimal that identifies a binary floating-point number, and the layout in which such
a number appears in reports: positional between 10⁻⁴ and 10¹⁶, otherwise with a signed exponent of
at least two digits.
-/

namespace PerlVet.Decimal

/-- A positive finite number `m * 2^q`; below a power of two the next smaller number is nearer. -/
structure Binary where
  m : Nat
  q : Int
  narrowBelow : Bool

/-- The magnitude a finite bit pattern stands for. -/
def Binary.ofBits (bits : UInt64) : Binary :=
  let e := ((bits >>> 52) &&& 0x7FF).toNat
  let f := (bits &&& 0xFFFFFFFFFFFFF).toNat
  if e == 0 then ⟨f, -1074, false⟩ else ⟨Nat.pow 2 52 + f, (e : Int) - 1075, f == 0 && e > 1⟩

/-- A decimal `digits * 10^exp`. -/
structure Dec where
  digits : Nat
  exp : Int
  deriving DecidableEq, Repr

/-- Compares `a * 10^i` with `n * 2^j` exactly. -/
def compareScaled (a : Nat) (i : Int) (n : Nat) (j : Int) : Ordering :=
  compare (a * Nat.pow 10 i.toNat * Nat.pow 2 (-j).toNat)
    (n * Nat.pow 2 j.toNat * Nat.pow 10 (-i).toNat)

/-- The decimal lies among the reals that round to the number, ties going to the even mantissa. -/
def Binary.readsBack (x : Binary) (d : Dec) : Bool :=
  let lo := if x.narrowBelow then 4 * x.m - 1 else 4 * x.m - 2
  let low := compareScaled d.digits d.exp lo (x.q - 2)
  let high := compareScaled d.digits d.exp (4 * x.m + 2) (x.q - 2)
  let ends := x.m % 2 == 0
  (low == .gt || (ends && low == .eq)) && (high == .lt || (ends && high == .eq))

/-- How many decimal digits stand before the point of `num / den`; not positive for numbers below
one tenth. -/
def leadingExponent (num den : Nat) : Int :=
  if den ≤ num then (Nat.toDigits 10 (num / den)).length
  else
    let zeros := ((List.range 400).find? fun j => den ≤ num * Nat.pow 10 (j + 1)).getD 400
    0 - (zeros : Int)

/-- The decimal with the fewest digits that reads back as `x`, and of those the nearest. -/
def Binary.shortest (x : Binary) : Dec :=
  let num := x.m * Nat.pow 2 x.q.toNat
  let den := Nat.pow 2 (-x.q).toNat
  let k := leadingExponent num den
  let found := (List.range 17).findSome? fun (i : Nat) =>
    let exp := k - ((i : Int) + 1)
    let scaledNum := num * Nat.pow 10 (-exp).toNat
    let scaledDen := den * Nat.pow 10 exp.toNat
    let below := scaledNum / scaledDen
    let hitBelow := x.readsBack ⟨below, exp⟩
    let hitAbove := x.readsBack ⟨below + 1, exp⟩
    if hitBelow && hitAbove then
      match compare (2 * (scaledNum % scaledDen)) scaledDen with
      | .lt => some ⟨below, exp⟩
      | .gt => some ⟨below + 1, exp⟩
      | .eq => some ⟨if below % 2 == 0 then below else below + 1, exp⟩
    else if hitBelow then some ⟨below, exp⟩
    else if hitAbove then some ⟨below + 1, exp⟩
    else none
  found.getD ⟨num * Nat.pow 10 (-x.q).toNat / den, x.q⟩

/-- Writes the digits of a decimal in the layout of reports. -/
def Dec.layout (d : Dec) : String :=
  let all := Nat.toDigits 10 d.digits
  let point : Int := all.length + d.exp
  let digits := (all.reverse.dropWhile (· == '0')).reverse
  if -4 < point && point ≤ 16 then
    if point ≤ 0 then
      "0." ++ String.ofList (List.replicate (-point).toNat '0' ++ digits)
    else
      let whole := digits.take point.toNat
      let whole := whole ++ List.replicate (point.toNat - whole.length) '0'
      let part := digits.drop point.toNat
      String.ofList whole ++ "." ++ (if part.isEmpty then "0" else String.ofList part)
  else
    let e := point - 1
    let magnitude := toString e.natAbs
    let magnitude := if magnitude.length < 2 then "0" ++ magnitude else magnitude
    let mantissa := match digits with
      | [] => "0"
      | [c] => String.ofList [c]
      | c :: rest => String.ofList (c :: '.' :: rest)
    mantissa ++ "e" ++ (if e < 0 then "-" else "+") ++ magnitude

/-- The text of a floating-point number in reports. -/
def text (x : Float) : String :=
  if x.isNaN then "nan"
  else
    let sign := if x.toBits >>> 63 == 1 then "-" else ""
    if x.isInf then sign ++ "inf"
    else
      let b := Binary.ofBits (x.toBits &&& 0x7FFFFFFFFFFFFFFF)
      if b.m == 0 then sign ++ "0.0" else sign ++ b.shortest.layout

end PerlVet.Decimal

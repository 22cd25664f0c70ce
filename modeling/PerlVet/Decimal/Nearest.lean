/-!
The floating-point number nearest to a decimal.
-/

namespace PerlVet.Decimal

/-- The floating-point number nearest to `m * 10 ^ e`. Outside the range in which a number with
that many digits can be finite and not zero, the result is known without a computation. -/
def nearest (m : Nat) (e : Int) : Float :=
  let digits : Int := (Nat.toDigits 10 m).length
  if m == 0 then 0
  else if e + digits > 400 then 1.0 / 0.0
  else if e + digits < -400 then 0
  else Float.ofScientific m (e < 0) e.natAbs

end PerlVet.Decimal

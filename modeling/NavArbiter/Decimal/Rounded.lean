/-
# Rounded decimal texts

A float with a fixed number of places after the point, or with a fixed number of significant digits
and a decimal exponent.  Both round the exact value once, a tie to the even digit.
-/
import NavArbiter.Decimal.Exact

namespace NavArbiter.Decimal

/-- The digits of a number, with zeros in front up to a length. -/
def paddedDigits (length n : Nat) : List Char :=
  let ds := digits n
  List.replicate (length - ds.length) '0' ++ ds

/-- A number of units of `10^-places`, written with a point. -/
def pointed (places units : Nat) : String :=
  let ds := paddedDigits (places + 1) units
  let whole := ds.length - places
  if places = 0 then String.ofList ds
  else String.ofList (ds.take whole ++ '.' :: ds.drop whole)

/-- A float with a fixed number of places after the point. -/
def fixed (places : Nat) (x : Float) : String :=
  match parts x with
  | .undefined => "NaN"
  | .infinite negative => signed negative "inf"
  | .finite negative mantissa exponent =>
      let f := (Fraction.ofScaled mantissa 2 exponent).shift places
      signed negative (pointed places (roundDiv f.num f.den))

/-- The first `length` significant digits of a positive fraction as a number, rounded, and the
decimal exponent of the first. -/
def significant (length : Nat) (f : Fraction) : Nat × Int :=
  let e := exponentOf f
  let g := f.shift ((length : Int) - 1 - e)
  let q := roundDiv g.num g.den
  if q = Nat.pow 10 length then (Nat.pow 10 (length - 1), e + 1) else (q, e)

/-- A float with a fixed number of significant digits, one of them before the point, and a decimal
exponent. -/
def scientific (length : Nat) (x : Float) : String :=
  match parts x with
  | .undefined => "NaN"
  | .infinite negative => signed negative "inf"
  | .finite negative mantissa exponent =>
      if mantissa = 0 then signed negative (pointed (length - 1) 0 ++ "e0")
      else
        let (q, e) := significant length (Fraction.ofScaled mantissa 2 exponent)
        signed negative (pointed (length - 1) q ++ "e" ++ toString e)

end NavArbiter.Decimal

/-
# Shortest decimal texts

Of all decimal numbers that read back as a given float, `shortest` finds one with the fewest digits,
and of those the nearest.  The numbers that read back form an interval about the float, which
includes its ends if the mantissa is even.  If a decimal grid has a point in the interval, then one
of the two neighbours of the float on that grid lies in it, so only these are tried.  Where the
float lies halfway between two that read back, a `TieRule` decides.

`plain` never uses an exponent, and takes the greater of two at the same distance; `compact?` uses
an exponent for very large and very small numbers, shows every number as a fraction by a point or
an exponent, and takes the even one of two at the same distance.
-/
import NavArbiter.Decimal.Exact

namespace NavArbiter.Decimal

/-- The numbers that read back as a float. -/
structure Interval where
  low : Fraction
  high : Fraction
  closed : Bool

namespace Interval

/-- The interval of `mantissa · 2^exponent`.  Below a power of two the floats lie twice as
close. -/
def around (mantissa : Nat) (exponent : Int) : Interval where
  low :=
    if mantissa = hiddenBit ∧ -1074 < exponent then
      .ofScaled (4 * mantissa - 1) 2 (exponent - 2)
    else .ofScaled (4 * mantissa - 2) 2 (exponent - 2)
  high := .ofScaled (4 * mantissa + 2) 2 (exponent - 2)
  closed := mantissa % 2 == 0

def contains (i : Interval) (f : Fraction) : Bool :=
  if i.closed then i.low.le f && f.le i.high else i.low.lt f && f.lt i.high

end Interval

/-- The decimal number `units · 10^exponent`. -/
structure Grid where
  units : Nat
  exponent : Int
  deriving DecidableEq, Repr

/-- The value of a decimal number. -/
def Grid.value (g : Grid) : Fraction := .ofScaled g.units 10 g.exponent

/-- Which of two neighbours at the same distance is taken. -/
inductive TieRule where
  /-- The greater one. -/
  | upper
  /-- The one whose last digit is even. -/
  | even
  deriving DecidableEq, Repr

/-- The lower neighbour, of so many units, is taken at a tie. -/
def TieRule.takesLower : TieRule → Nat → Bool
  | .upper, _ => false
  | .even, units => units % 2 == 0

/-- The neighbour of a fraction on the grid of `10^exponent` that lies in the interval, the nearer
one if both do. -/
def neighbour (tie : TieRule) (i : Interval) (f : Fraction) (exponent : Int) : Option Grid :=
  let g := f.shift (-exponent)
  let below := g.num / g.den
  let a : Grid := ⟨below, exponent⟩
  let b : Grid := ⟨below + 1, exponent⟩
  match i.contains a.value, i.contains b.value with
  | true, true =>
      let twice := 2 * (g.num % g.den)
      some (if twice < g.den ∨ (twice = g.den ∧ tie.takesLower below) then a else b)
  | true, false => some a
  | false, true => some b
  | false, false => none

/-- The number on the coarsest of the next `fuel` grids that reads back; if there is none, the
nearest on the grid after them. -/
def search (tie : TieRule) (i : Interval) (f : Fraction) : Nat → Int → Grid
  | 0, exponent =>
      let g := f.shift (-exponent)
      ⟨roundDiv g.num g.den, exponent⟩
  | fuel + 1, exponent =>
      match neighbour tie i f exponent with
      | some g => g
      | none => search tie i f fuel (exponent - 1)

/-- The shortest decimal number that reads back as `mantissa · 2^exponent`.  Seventeen digits are
enough for every float. -/
def shortest (tie : TieRule) (mantissa : Nat) (exponent : Int) : Grid :=
  let f := Fraction.ofScaled mantissa 2 exponent
  search tie (.around mantissa exponent) f 17 (exponentOf f)

/-- Digits with trailing zeros moved into the exponent. -/
def Grid.trimmed (g : Grid) : List Char × Int :=
  let zeros := ((digits g.units).reverse.takeWhile (· == '0')).length
  let ds := digits g.units
  (ds.take (ds.length - zeros), g.exponent + zeros)

/-- Digits and a decimal exponent, written with a point and without an exponent; the point is left
out after a whole number. -/
def positional (ds : List Char) (e : Int) : List Char :=
  if 0 ≤ e then ds ++ List.replicate e.toNat '0'
  else
    let places := (-e).toNat
    if places < ds.length then
      ds.take (ds.length - places) ++ '.' :: ds.drop (ds.length - places)
    else '0' :: '.' :: (List.replicate (places - ds.length) '0' ++ ds)

/-- A float with the fewest digits that read back, without an exponent. -/
def plain (x : Float) : String :=
  match parts x with
  | .undefined => "NaN"
  | .infinite negative => signed negative "inf"
  | .finite negative mantissa exponent =>
      if mantissa = 0 then signed negative "0"
      else
        let (ds, e) := (shortest .upper mantissa exponent).trimmed
        signed negative (String.ofList (positional ds e))

/-- The exponents of the first digit that are written without an exponent. -/
def compactRange (first : Int) : Bool := decide (-6 < first) && decide (first < 16)

/-- A float with the fewest digits that read back, with a decimal exponent where the point would lie
far from them, and never like a whole number.  What is not finite has no text. -/
def compact? (x : Float) : Option String :=
  match parts x with
  | .undefined => none
  | .infinite _ => none
  | .finite negative mantissa exponent =>
      if mantissa = 0 then some (signed negative "0.0")
      else
        let (ds, e) := (shortest .even mantissa exponent).trimmed
        let first := (ds.length : Int) + e - 1
        let text :=
          if compactRange first then
            String.ofList (positional ds e) ++ (if 0 ≤ e then ".0" else "")
          else
            let rest := ds.drop 1
            String.ofList (ds.take 1 ++ (if rest.isEmpty then [] else '.' :: rest))
              ++ "e" ++ toString first
        some (signed negative text)

end NavArbiter.Decimal

/-
# Floats as exact fractions

A finite float is `mantissa · 2^exponent`, with a sign; its decimal texts are
computed from that number with natural arithmetic, never from another float.  `roundDiv` rounds a
fraction to the nearest whole number, a tie to the even one.
-/

namespace NavArbiter.Decimal

/-- What a float is: nothing, an infinity, or `mantissa · 2^exponent` with a sign. -/
inductive Parts where
  | undefined
  | infinite (negative : Bool)
  | finite (negative : Bool) (mantissa : Nat) (exponent : Int)
  deriving DecidableEq, Repr

/-- The bit that stands above the written part of a mantissa, 2^52. -/
def hiddenBit : Nat := 0x10000000000000

/-- The parts of a float, read off its bits: a sign, eleven bits of exponent, and a fraction. -/
def parts (x : Float) : Parts :=
  let bits : Nat := x.toBits.toNat
  let negative := decide (0x8000000000000000 ≤ bits)
  let biased : Nat := bits / hiddenBit % 2048
  let fraction : Nat := bits % hiddenBit
  if biased = 2047 then if fraction = 0 then .infinite negative else .undefined
  else if biased = 0 then .finite negative fraction (-1074)
  else .finite negative (hiddenBit + fraction) ((biased : Int) - 1075)

/-- A fraction of natural numbers. -/
structure Fraction where
  num : Nat
  den : Nat
  deriving DecidableEq, Repr

namespace Fraction

/-- The fraction `m · b^e`. -/
def ofScaled (m b : Nat) (e : Int) : Fraction :=
  if 0 ≤ e then ⟨m * Nat.pow b e.toNat, 1⟩ else ⟨m, Nat.pow b (-e).toNat⟩

/-- The fraction times `10^e`. -/
def shift (f : Fraction) (e : Int) : Fraction :=
  if 0 ≤ e then ⟨f.num * Nat.pow 10 e.toNat, f.den⟩ else ⟨f.num, f.den * Nat.pow 10 (-e).toNat⟩

def le (f g : Fraction) : Bool := decide (f.num * g.den ≤ g.num * f.den)

def lt (f g : Fraction) : Bool := decide (f.num * g.den < g.num * f.den)

end Fraction

/-- The decimal digits of a number, most significant first. -/
def digits (n : Nat) : List Char := Nat.toDigits 10 n

/-- The whole number nearest to a fraction, a tie going to the even one. -/
def roundDiv (num den : Nat) : Nat :=
  let q := num / den
  let r := num % den
  if den < 2 * r ∨ (2 * r = den ∧ q % 2 = 1) then q + 1 else q

/-- The decimal exponent of a positive fraction: that of the power of ten next below or at it. -/
def exponentOf (f : Fraction) : Int :=
  let guess : Int := ((digits f.num).length : Int) - ((digits f.den).length : Int)
  if Fraction.le (Fraction.ofScaled 1 10 guess) f then guess else guess - 1

/-- A sign before a text. -/
def signed (negative : Bool) (text : String) : String :=
  if negative then "-" ++ text else text

end NavArbiter.Decimal

/-
# Numbers

A numeral is first scanned and then evaluated.  Whole numbers of at most 64 bits stay exact; every
other numeral becomes a float, from a significand of at most 64 bits and a power of ten.  Digits
that no longer fit behind the significand are dropped.  A numeral beyond the range of floats cannot
be read, but it can be passed over.
-/
import NavArbiter.Json.Fault
import NavArbiter.Json.Octets

namespace NavArbiter.Json

/-- A number in a document. -/
inductive Number where
  | natural (n : Nat)
  | negative (n : Nat)
  | real (x : Float)

/-- A numeral as it is written. -/
structure Numeral where
  minus : Bool
  whole : List Char
  /-- The digits after the point, if there is one. -/
  fraction : Option (List Char)
  /-- Whether the exponent is negative, and its digits. -/
  exponent : Option (Bool × List Char)

namespace Numeral

def isDigit (c : Char) : Bool := decide ('0' ≤ c) && decide (c ≤ '9')

def digitValue (c : Char) : Nat := c.toNat - '0'.toNat

/-! ## Scanning -/

/-- A numeral that stops in the middle: the fault met when it is read, and when it is passed
over. -/
structure Break where
  reading : Fault
  passing : Fault

/-- Where a digit is missing: a text that ends there is truncated, but only for a reader. -/
def missingDigit : Octets → Break
  | [] => ⟨.truncated, .malformed⟩
  | _ => ⟨.malformed, .malformed⟩

/-- The digits before the point; a leading zero stands alone. -/
def scanWhole : Octets → Except Break (List Char × Octets)
  | '0' :: rest =>
      match rest with
      | [] => .ok (['0'], [])
      | c :: _ => if isDigit c then .error ⟨.malformed, .malformed⟩ else .ok (['0'], rest)
  | os =>
      match os.span isDigit with
      | ([], _) => .error (missingDigit os)
      | (ds, rest) => .ok (ds, rest)

/-- The digits after the point, if there is one. -/
def scanFraction : Octets → Except Break (Option (List Char) × Octets)
  | '.' :: rest =>
      match rest.span isDigit with
      | ([], _) => .error (missingDigit rest)
      | (ds, rest) => .ok (some ds, rest)
  | os => .ok (none, os)

/-- The sign of an exponent, if there is one. -/
def scanSign : Octets → Bool × Octets
  | '-' :: rest => (true, rest)
  | '+' :: rest => (false, rest)
  | os => (false, os)

/-- The exponent, if there is one. -/
def scanExponent : Octets → Except Break (Option (Bool × List Char) × Octets)
  | [] => .ok (none, [])
  | c :: rest =>
      if c == 'e' || c == 'E' then
        let (negative, rest) := scanSign rest
        match rest.span isDigit with
        | ([], _) => .error (missingDigit rest)
        | (ds, rest) => .ok (some (negative, ds), rest)
      else .ok (none, c :: rest)

/-- A numeral at the front of the octets. -/
def scan (os : Octets) : Except Break (Numeral × Octets) := do
  let (minus, os) := match os with
    | '-' :: rest => (true, rest)
    | os => (false, os)
  let (whole, os) ← scanWhole os
  let (fraction, os) ← scanFraction os
  let (exponent, os) ← scanExponent os
  return (⟨minus, whole, fraction, exponent⟩, os)

/-! ## Evaluation -/

/-- What no number of 64 bits reaches, 2^64. -/
def wordBound : Nat := 0x10000000000000000

/-- A digit fits behind a significand of 64 bits. -/
def fits (significand digit : Nat) : Bool := decide (significand * 10 + digit < wordBound)

/-- The significand after digits before the point, and how many of them no longer fitted. -/
def addWhole (significand : Nat) : List Char → Nat × Nat
  | [] => (significand, 0)
  | c :: cs =>
      if fits significand (digitValue c) then addWhole (significand * 10 + digitValue c) cs
      else (significand, cs.length + 1)

/-- The significand after digits behind the point, and how many of them fitted. -/
def addFraction (significand : Nat) : List Char → Nat × Nat
  | [] => (significand, 0)
  | c :: cs =>
      if fits significand (digitValue c) then
        let (s, count) := addFraction (significand * 10 + digitValue c) cs
        (s, count + 1)
      else (significand, 0)

/-- The float of a power of ten up to 10^308. -/
def powerOfTen (e : Nat) : Float := Float.ofScientific 1 false e

/-- A significand times a power of ten, in one rounding step where the power is a float; nothing if
the result is too large.  Two divisions by 10^308 leave nothing of 64 bits. -/
def scale (significand : Nat) (e : Int) : Option Float :=
  let f := significand.toUInt64.toFloat
  if significand = 0 then some f
  else if 0 ≤ e then
    if e ≤ 308 then
      let r := f * powerOfTen e.toNat
      if r.isInf then none else some r
    else none
  else if -308 ≤ e then some (f / powerOfTen (-e).toNat)
  else if -616 ≤ e then some (f / powerOfTen 308 / powerOfTen (-(e + 308)).toNat)
  else some 0.0

/-- The largest exponent that is looked at, 2^31 - 1; a larger one makes the number zero or too
large. -/
def maxExponent : Nat := 0x7FFFFFFF

/-- The digits of a number, read as a natural number. -/
def natural (ds : List Char) : Nat := ds.foldl (fun n c => n * 10 + digitValue c) 0

/-- The magnitude of a numeral as a float. -/
def magnitude (n : Numeral) : Option Float :=
  let (significand, dropped) := addWhole 0 n.whole
  let (significand, places) := addFraction significand (n.fraction.getD [])
  let e : Int := (dropped : Int) - (places : Int)
  match n.exponent with
  | none => scale significand e
  | some (negative, ds) =>
      let written := natural ds
      if maxExponent < written then
        if significand ≠ 0 ∧ !negative then none else some 0.0
      else scale significand (if negative then e - written else e + written)

/-- A float with a sign. -/
def signedReal (minus : Bool) (x : Float) : Number := .real (if minus then -x else x)

/-- The magnitude of the least whole number that stays exact, 2^63. -/
def minMagnitude : Nat := 0x8000000000000000

/-- The number that a numeral stands for. -/
def eval (n : Numeral) : Except Fault Number :=
  let whole := natural n.whole
  if n.fraction.isNone && n.exponent.isNone && decide (whole < wordBound) then
    if n.minus then
      if whole = 0 ∨ minMagnitude < whole then .ok (signedReal true whole.toUInt64.toFloat)
      else .ok (.negative whole)
    else .ok (.natural whole)
  else
    match n.magnitude with
    | some x => .ok (signedReal n.minus x)
    | none => .error .malformed

end Numeral

/-- The float nearest to a number of a document. -/
def Number.toFloat : Number → Float
  | .natural n => n.toUInt64.toFloat
  | .negative n => -n.toUInt64.toFloat
  | .real x => x

end NavArbiter.Json

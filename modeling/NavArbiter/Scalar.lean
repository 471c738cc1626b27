/-
# `Scalar` — the numbers the arbitration computes with

Everything numeric in the library is written over a type `α` with this interface, and never
over a fixed number type.  `Float` is the instance that runs.  A field with the same
operations serves for exact arithmetic, because no definition reorders a sum or a product.

Constants are written in decimal notation (`25.0`, `1e-3`), which every instance reads
through `OfScientific`.  Comparisons are propositions with a decision procedure, so a test
such as `x < y` is false on an unordered pair of floats and an ordinary order over a field.
-/

namespace NavArbiter

/-- A number type with the operations that geometry, covariance and gating need. -/
class Scalar (α : Type) extends
    Add α, Sub α, Mul α, Div α, Neg α, OfScientific α, LT α, LE α where
  /-- The strict order is decidable. -/
  decLt : ∀ x y : α, Decidable (x < y)
  /-- The order is decidable. -/
  decLe : ∀ x y : α, Decidable (x ≤ y)
  /-- Neither infinite nor undefined. -/
  isFinite : α → Bool
  /-- The number nearest to a natural number. -/
  ofNat : Nat → α
  /-- Half of a full turn, in radians. -/
  pi : α
  sqrt : α → α
  /-- Length of the plane vector with these two components. -/
  hypot : α → α → α
  exp : α → α
  sin : α → α
  cos : α → α
  asin : α → α
  /-- Angle of the point `(x, y)`, given as `atan2 y x`. -/
  atan2 : α → α → α

namespace Scalar

variable {α : Type} [Scalar α]

instance : DecidableLT α := Scalar.decLt

instance : DecidableLE α := Scalar.decLe

/-- Magnitude. -/
def abs (x : α) : α := if x < 0.0 then -x else x

/-- The larger of two numbers; an undefined operand yields the other one. -/
def larger (x y : α) : α := if y ≤ x then x else if y ≤ y then y else x

/-- The smaller of two numbers; an undefined operand yields the other one. -/
def smaller (x y : α) : α := if x ≤ y then x else if y ≤ y then y else x

/-- The number moved into the interval from `lo` to `hi`. -/
def clamp (lo hi x : α) : α :=
  let x := if x < lo then lo else x
  if hi < x then hi else x

/-- An angle from −3π up to 3π, turned by full turns into the half-open interval [−π, π). -/
def wrapAngle (angle : α) : α :=
  let turn := 2.0 * (pi : α)
  let shifted := angle + pi
  let reduced :=
    if shifted < 0.0 then shifted + turn
    else if turn ≤ shifted then shifted - turn
    else shifted
  reduced - pi

end Scalar

namespace Binary64

/-- The float nearest to a natural number. -/
def ofNat (n : Nat) : Float :=
  if n < 0x10000000000000000 then n.toUInt64.toFloat else Float.ofScientific n false 0

/-- Length of a plane vector: the root of the sum of squares, with one correction step that
removes the rounding of the two squares.  An infinite component makes it infinite. -/
def hypot (x y : Float) : Float :=
  let x := x.abs
  let y := y.abs
  if x.isInf || y.isInf then 1.0 / 0.0
  else
    let a := if x < y then y else x
    let b := if x < y then x else y
    let h := (a * a + b * b).sqrt
    if h == 0.0 || !h.isFinite then h
    else
      let excess :=
        if h ≤ 2.0 * b then
          let d := h - b
          a * (2.0 * d - a) + (d - 2.0 * (a - b)) * d
        else
          let d := h - a
          2.0 * d * (a - 2.0 * b) + ((4.0 * d - b) * b + d * d)
      h - excess / (2.0 * h)

end Binary64

instance : Scalar Float where
  decLt := fun _ _ => inferInstance
  decLe := fun _ _ => inferInstance
  isFinite := Float.isFinite
  ofNat := Binary64.ofNat
  pi := 3.141592653589793
  sqrt := Float.sqrt
  hypot := Binary64.hypot
  exp := Float.exp
  sin := Float.sin
  cos := Float.cos
  asin := Float.asin
  atan2 := Float.atan2

end NavArbiter

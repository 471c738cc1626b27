/-
# Exact arithmetic that can fail

Over the real numbers every quotient has a value, that of a division by zero being zero, so nothing
that is proved there says whether a division by zero took place.  Here it does: a result is a real
number or undefined, and so is everything computed from an undefined one.  There is no rounding and
no infinity either.

    undefined          a quotient by zero, the root of a negative number, the arcsine of what is not
                       a sine, and every operation on something undefined
    never holds        a comparison with something undefined

On defined numbers all other operations are those of the real numbers, and the lemmas tagged `simp`
push them inwards.
-/
import NavArbiter.Proofs.Exact

namespace NavArbiter

/-- A real number, or the result of an operation that has none. -/
inductive PartialReal where
  | undefined
  | value (r : ℝ)

namespace PartialReal

/-- A function of one number. -/
def map (f : ℝ → ℝ) : PartialReal → PartialReal
  | value a => value (f a)
  | undefined => undefined

/-- A function of two numbers. -/
def map₂ (f : ℝ → ℝ → ℝ) : PartialReal → PartialReal → PartialReal
  | value a, value b => value (f a b)
  | _, _ => undefined

/-- The quotient, by a number other than zero. -/
noncomputable def quotient : PartialReal → PartialReal → PartialReal
  | value a, value b => if b = 0 then undefined else value (a / b)
  | _, _ => undefined

/-- The root of a number that is not negative. -/
noncomputable def root : PartialReal → PartialReal
  | value a => if a < 0 then undefined else value (Real.sqrt a)
  | undefined => undefined

/-- The arcsine of a sine. -/
noncomputable def arcsine : PartialReal → PartialReal
  | value a => if |a| ≤ 1 then value (Real.arcsin a) else undefined
  | undefined => undefined

/-- A relation between two numbers, both of them defined. -/
def Related (r : ℝ → ℝ → Prop) : PartialReal → PartialReal → Prop
  | value a, value b => r a b
  | _, _ => False

noncomputable instance : Scalar PartialReal where
  add := map₂ (· + ·)
  sub := map₂ (· - ·)
  mul := map₂ (· * ·)
  div := quotient
  neg := map (- ·)
  ofScientific mantissa negative exponent :=
    value (OfScientific.ofScientific mantissa negative exponent)
  lt := Related (· < ·)
  le := Related (· ≤ ·)
  decLt := fun _ _ => Classical.propDecidable _
  decLe := fun _ _ => Classical.propDecidable _
  isFinite
    | value _ => true
    | undefined => false
  ofNat n := value n
  pi := value Real.pi
  sqrt := root
  hypot := map₂ Scalar.hypot
  exp := map Real.exp
  sin := map Real.sin
  cos := map Real.cos
  asin := arcsine
  atan2 := map₂ Scalar.atan2

section Values

variable {a b : ℝ}

@[simp] theorem value_inj : value a = value b ↔ a = b := by rw [value.injEq]

@[simp] theorem value_add : value a + value b = value (a + b) := rfl

@[simp] theorem value_sub : value a - value b = value (a - b) := rfl

@[simp] theorem value_mul : value a * value b = value (a * b) := rfl

@[simp] theorem value_div (h : b ≠ 0) : value a / value b = value (a / b) := if_neg h

@[simp] theorem div_value_zero (x : PartialReal) : x / value 0 = undefined := by
  cases x with
  | undefined => rfl
  | value a => exact if_pos rfl

@[simp] theorem value_lt : value a < value b ↔ a < b := Iff.rfl

@[simp] theorem ofNat_eq (n : ℕ) : (Scalar.ofNat n : PartialReal) = value n := rfl

/-- Numerals are defined. -/
theorem numeral (mantissa exponent : ℕ) (negative : Bool) :
    (OfScientific.ofScientific mantissa negative exponent : PartialReal) =
      value (OfScientific.ofScientific mantissa negative exponent) := rfl

end Values

section Undefined

variable (x : PartialReal)

@[simp] theorem add_undefined : x + undefined = undefined := by cases x <;> rfl

@[simp] theorem undefined_mul : undefined * x = undefined := rfl

@[simp] theorem mul_undefined : x * undefined = undefined := by cases x <;> rfl

@[simp] theorem not_undefined_lt : ¬ undefined < x := id

@[simp] theorem not_lt_undefined : ¬ x < undefined := by cases x <;> exact id

end Undefined

theorem clamp_value (lo hi a : ℝ) :
    Scalar.clamp (value lo) (value hi) (value a) = value (Scalar.clamp lo hi a) := by
  unfold Scalar.clamp
  simp only [value_lt, apply_ite value]
  by_cases low : a < lo
  · simp only [low, if_true, value_lt]
  · simp only [low, if_false, value_lt]

theorem clamp_undefined (lo hi : PartialReal) : Scalar.clamp lo hi undefined = undefined := by
  simp [Scalar.clamp]

/-- A positive number is defined. -/
theorem pos_iff {x : PartialReal} : (0.0 : PartialReal) < x ↔ ∃ r, x = value r ∧ 0 < r := by
  have zero : (0.0 : PartialReal) = value 0 := by
    rw [numeral]
    norm_num
  rw [zero]
  cases x with
  | undefined => simp
  | value a => simp

theorem positive_value {a : ℝ} (h : 0 < a) : Scalar.Positive (value a) :=
  ⟨rfl, pos_iff.mpr ⟨a, rfl, h⟩⟩

theorem nonNegative_value {a : ℝ} (h : 0 ≤ a) : Scalar.NonNegative (value a) := by
  refine ⟨rfl, ?_⟩
  show (0.0 : ℝ) ≤ a
  norm_num
  exact h

end PartialReal

/-- The settings in force unless told otherwise are in range, whatever the least quality of flow. -/
theorem Settings.inRange_default (least : UInt8) :
    ({ Settings.default with flowMinQuality := least } : Settings PartialReal).InRange where
  heightResetLimit := PartialReal.positive_value (show (0 : ℝ) < 5.0 by norm_num)
  requiredVerticalAccuracy := PartialReal.positive_value (show (0 : ℝ) < 8.0 by norm_num)
  baroNoise := PartialReal.positive_value (show (0 : ℝ) < 2.0 by norm_num)
  baroGate := PartialReal.positive_value (show (0 : ℝ) < 5.0 by norm_num)
  flowNoise := PartialReal.positive_value (show (0 : ℝ) < 0.15 by norm_num)
  flowNoiseWorst := PartialReal.positive_value (show (0 : ℝ) < 0.5 by norm_num)
  tiltAlignVariance := PartialReal.positive_value (show (0 : ℝ) < 0.05235 * 0.05235 by norm_num)
  groundClearance := PartialReal.nonNegative_value (show (0 : ℝ) ≤ 0.1 by norm_num)
  baroMaxInterval := show 0 < 200000 by decide
  gpsMaxInterval := show 0 < 500000 by decide
  rangeMaxInterval := show 0 < 200000 by decide
  visionMaxInterval := show 0 < 200000 by decide

end NavArbiter

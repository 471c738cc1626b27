/-
# Exact arithmetic

The real numbers as numbers to compute with: no rounding, no infinity and nothing undefined, so
what is proved over every `Scalar` can be read off there without a word on floats.
-/
import Mathlib.Analysis.SpecialFunctions.Complex.Arg
import Mathlib.Analysis.SpecialFunctions.Trigonometric.Inverse
import NavArbiter.Estimator.GatedFilter
import NavArbiter.Proofs.Run
import NavArbiter.Proofs.SettingsRange

namespace NavArbiter

noncomputable instance : Scalar ℝ where
  decLt := fun _ _ => inferInstance
  decLe := fun _ _ => inferInstance
  isFinite := fun _ => true
  ofNat := Nat.cast
  pi := Real.pi
  sqrt := Real.sqrt
  hypot := fun x y => Real.sqrt (x * x + y * y)
  exp := Real.exp
  sin := Real.sin
  cos := Real.cos
  asin := Real.arcsin
  atan2 := fun y x => Complex.arg ⟨x, y⟩

/-- Every real number is finite. -/
theorem Scalar.positive_of_pos {v : ℝ} (h : 0 < v) : Scalar.Positive v := by
  refine ⟨rfl, ?_⟩
  show (0.0 : ℝ) < v
  norm_num
  exact h

theorem Scalar.nonNegative_of_nonneg {v : ℝ} (h : 0 ≤ v) : Scalar.NonNegative v := by
  refine ⟨rfl, ?_⟩
  show (0.0 : ℝ) ≤ v
  norm_num
  exact h

namespace Settings

/-- Settings with positive limits and noises and with intervals that are not zero are in range. -/
theorem check_eq_ok {s : Settings ℝ}
    (limits : 0 < s.heightResetLimit ∧ 0 < s.requiredVerticalAccuracy)
    (baro : 0 < s.baroNoise ∧ 0 < s.baroGate) (flow : 0 < s.flowNoise ∧ 0 < s.flowNoiseWorst)
    (tilt : 0 < s.timeouts.tiltAlignVariance) (clearance : 0 ≤ s.groundClearance)
    (intervals : 0 < s.baroMaxInterval ∧ 0 < s.gpsMaxInterval ∧ 0 < s.rangeMaxInterval ∧
      0 < s.visionMaxInterval) : s.check = .ok () := by
  refine check_eq_ok_iff.mpr ?_
  exact {
    heightResetLimit := Scalar.positive_of_pos limits.1
    requiredVerticalAccuracy := Scalar.positive_of_pos limits.2
    baroNoise := Scalar.positive_of_pos baro.1
    baroGate := Scalar.positive_of_pos baro.2
    flowNoise := Scalar.positive_of_pos flow.1
    flowNoiseWorst := Scalar.positive_of_pos flow.2
    tiltAlignVariance := Scalar.positive_of_pos tilt
    groundClearance := Scalar.nonNegative_of_nonneg clearance
    baroMaxInterval := intervals.1
    gpsMaxInterval := intervals.2.1
    rangeMaxInterval := intervals.2.2.1
    visionMaxInterval := intervals.2.2.2 }

/-- The settings in force unless told otherwise are in range. -/
theorem check_default : (default : Settings ℝ).check = .ok () := by
  apply check_eq_ok
  · exact ⟨show (0 : ℝ) < 5.0 by norm_num, show (0 : ℝ) < 8.0 by norm_num⟩
  · exact ⟨show (0 : ℝ) < 2.0 by norm_num, show (0 : ℝ) < 5.0 by norm_num⟩
  · exact ⟨show (0 : ℝ) < 0.15 by norm_num, show (0 : ℝ) < 0.5 by norm_num⟩
  · show (0 : ℝ) < 0.05235 * 0.05235
    norm_num
  · show (0 : ℝ) ≤ 0.1
    norm_num
  · decide

end Settings

/-- So they make an arbiter. -/
theorem Arbiter.new_default :
    Arbiter.new (Settings.default : Settings ℝ) = .ok (Arbiter.ofSettings Settings.default) := by
  unfold Arbiter.new
  rw [Settings.check_default]
  rfl

/-- A take-off, one cycle of the gated filter on empty histories, and a landing. -/
noncomputable def shortFlight : List (Call ℝ (GatedFilter ℝ)) :=
  [.setInAir true, .update ⟨1000000, 900000⟩ .empty (.ofSettings .default), .setInAir false]

end NavArbiter

/-
# The noise of flow

The variance of a flow measurement is the square of a noise that goes linearly with the quality of
the sample, from the worst noise at the least quality accepted to the best noise at full quality:

    quality     up to the least     between         255
    weight      0                   in proportion   1
    noise       worst               linear          best

The weight is a quotient by the distance of the least quality from 255.  Nothing checks that there
is a distance, so in exact arithmetic (`PartialReal`) the variance is defined for every sample if
the least quality is below 255, and for none if it is 255 (`flow_variance`).

Neither order of the noises is excluded: the variance falls or rises with quality, and since it does
one or the other, its values at both ends bound it (`FlowLaw.within`).
-/
import Mathlib.Data.Real.Basic
import NavArbiter.Proofs.FilterActions
import NavArbiter.Proofs.Flight
import NavArbiter.Proofs.PartialReal

namespace NavArbiter

/-! ## The weight -/

theorem Scalar.clamp_eq {lo hi a : ℝ} : Scalar.clamp lo hi a = min hi (max lo a) := by
  unfold clamp
  rw [max_comm, max_def_lt, min_def_lt]

/-- The weight of the best noise at a quality. -/
noncomputable def flowWeight (least q : UInt8) : ℝ :=
  Scalar.clamp 0 1 ((q.toNat - least.toNat) / (255 - least.toNat))

section Weight

variable {least q q' : UInt8}

theorem quality_le_full (q : UInt8) : q ≤ 255 :=
  UInt8.le_iff_toNat_le.mpr (Nat.le_of_lt_succ q.toNat_lt)

theorem flowDistance_nonneg : (0 : ℝ) ≤ 255 - least.toNat :=
  sub_nonneg.mpr (by exact_mod_cast quality_le_full least)

theorem flowDistance_pos (h : least ≠ 255) : (0 : ℝ) < 255 - least.toNat := by
  have below : least < 255 := UInt8.lt_of_le_of_ne (quality_le_full least) h
  exact sub_pos.mpr (by exact_mod_cast below)

theorem flowWeight_nonneg : 0 ≤ flowWeight least q := by
  rw [flowWeight, Scalar.clamp_eq]
  exact le_min zero_le_one (le_max_left _ _)

theorem flowWeight_le_one : flowWeight least q ≤ 1 := by
  rw [flowWeight, Scalar.clamp_eq]
  exact min_le_left _ _

theorem flowWeight_mono (h : q ≤ q') : flowWeight least q ≤ flowWeight least q' := by
  have higher : (q.toNat : ℝ) ≤ q'.toNat := by exact_mod_cast h
  have distance : (0 : ℝ) ≤ 255 - least.toNat := flowDistance_nonneg
  rw [flowWeight, flowWeight, Scalar.clamp_eq, Scalar.clamp_eq]
  gcongr

theorem flowWeight_of_le (h : q ≤ least) : flowWeight least q = 0 := by
  have lower : (q.toNat : ℝ) - least.toNat ≤ 0 := sub_nonpos.mpr (by exact_mod_cast h)
  rw [flowWeight, Scalar.clamp_eq,
    max_eq_left (div_nonpos_of_nonpos_of_nonneg lower flowDistance_nonneg),
    min_eq_right zero_le_one]

theorem flowWeight_of_ge (h : least ≤ q) :
    flowWeight least q = (q.toNat - least.toNat) / (255 - least.toNat) := by
  have above : (0 : ℝ) ≤ q.toNat - least.toNat := sub_nonneg.mpr (by exact_mod_cast h)
  have full : (q.toNat : ℝ) ≤ 255 := by exact_mod_cast quality_le_full q
  rw [flowWeight, Scalar.clamp_eq, max_eq_right (div_nonneg above flowDistance_nonneg),
    min_eq_right (div_le_one_of_le₀ (sub_le_sub_right full _) flowDistance_nonneg)]

theorem flowWeight_full (h : least ≠ 255) : flowWeight least 255 = 1 := by
  rw [flowWeight_of_ge (quality_le_full least)]
  exact div_self (flowDistance_pos h).ne'

end Weight

/-! ## The law -/

/-- How the variance of flow depends on quality. -/
structure FlowLaw (best worst : ℝ) (least : UInt8) (variance : UInt8 → ℝ) : Prop where
  full : variance 255 = best ^ 2
  low : ∀ q ≤ least, variance q = worst ^ 2
  linear : ∀ q, least ≤ q → variance q =
    (worst + (q.toNat - least.toNat) / (255 - least.toNat) * (best - worst)) ^ 2
  falls : best ≤ worst → ∀ {q q'}, q ≤ q' → variance q' ≤ variance q
  rises : worst ≤ best → ∀ {q q'}, q ≤ q' → variance q ≤ variance q'

/-- What is monotone lies between its ends. -/
theorem FlowLaw.within {best worst : ℝ} {least : UInt8} {variance : UInt8 → ℝ}
    (law : FlowLaw best worst least variance) (q : UInt8) :
    variance q ∈ Set.uIcc (best ^ 2) (worst ^ 2) := by
  have lowest (q : UInt8) : 0 ≤ q := UInt8.le_iff_toNat_le.mpr (Nat.zero_le _)
  rw [← law.full, ← law.low 0 (lowest least), Set.mem_uIcc]
  rcases le_total best worst with falling | rising
  · exact Or.inl ⟨law.falls falling (quality_le_full q), law.falls falling (lowest q)⟩
  · exact Or.inr ⟨law.rises rising (lowest q), law.rises rising (quality_le_full q)⟩

/-- The noise at a quality. -/
noncomputable def flowNoiseAt (best worst : ℝ) (least q : UInt8) : ℝ :=
  worst + flowWeight least q * (best - worst)

section Noise

variable {best worst : ℝ} {least : UInt8}

theorem flowNoiseAt_nonneg (hb : 0 < best) (hw : 0 < worst) (q : UInt8) :
    0 ≤ flowNoiseAt best worst least q := by
  have weight : 0 ≤ 1 - flowWeight least q := sub_nonneg.mpr flowWeight_le_one
  calc 0 ≤ (1 - flowWeight least q) * worst + flowWeight least q * best :=
        add_nonneg (mul_nonneg weight hw.le) (mul_nonneg flowWeight_nonneg hb.le)
    _ = flowNoiseAt best worst least q := by rw [flowNoiseAt]; ring

theorem flowLaw (hb : 0 < best) (hw : 0 < worst) (distant : least ≠ 255) :
    FlowLaw best worst least fun q => flowNoiseAt best worst least q ^ 2 where
  full := by rw [flowNoiseAt, flowWeight_full distant, one_mul, add_sub_cancel]
  low q h := by rw [flowNoiseAt, flowWeight_of_le h, zero_mul, add_zero]
  linear q h := by rw [flowNoiseAt, flowWeight_of_ge h]
  falls order {q q'} h := by
    have falling : flowNoiseAt best worst least q' ≤ flowNoiseAt best worst least q :=
      add_le_add_right (mul_le_mul_of_nonpos_right (flowWeight_mono h) (sub_nonpos.mpr order)) _
    exact pow_le_pow_left₀ (flowNoiseAt_nonneg hb hw q') falling 2
  rises order {q q'} h := by
    have rising : flowNoiseAt best worst least q ≤ flowNoiseAt best worst least q' :=
      add_le_add_right (mul_le_mul_of_nonneg_right (flowWeight_mono h) (sub_nonneg.mpr order)) _
    exact pow_le_pow_left₀ (flowNoiseAt_nonneg hb hw q) rising 2

end Noise

/-! ## What the filter computes -/

namespace GatedFilter

open PartialReal

section Value

variable {f : GatedFilter PartialReal} {best worst : ℝ}

theorem flowVariance_value (hb : f.flowNoise = value best) (hw : f.flowNoiseWorst = value worst)
    (distant : f.flowMinQuality ≠ 255) (w : FlowSample PartialReal) :
    f.flowVariance w = value (flowNoiseAt best worst f.flowMinQuality w.quality ^ 2) := by
  have full : (255.0 : ℝ) = 255 := by norm_num
  have zero : (0.0 : ℝ) = 0 := by norm_num
  have one : (1.0 : ℝ) = 1 := by norm_num
  unfold flowVariance
  simp only [numeral, full, zero, one, ofNat_eq, value_sub,
    value_div (flowDistance_pos distant).ne', clamp_value, hb, hw, value_mul, value_add,
    flowNoiseAt, flowWeight, sq]

theorem flowVariance_undefined (none : f.flowMinQuality = 255) (w : FlowSample PartialReal) :
    f.flowVariance w = undefined := by
  have distance : (255.0 : PartialReal) - Scalar.ofNat f.flowMinQuality.toNat = value 0 := by
    rw [none, numeral, ofNat_eq, value_sub, show UInt8.toNat 255 = 255 from rfl]
    norm_num
  unfold flowVariance
  simp only [distance, div_value_zero, clamp_undefined, undefined_mul, add_undefined]

end Value

/-! ## Flights -/

theorem flowVariance_fusionAct {α : Type} [Scalar α] {samples : Histories α} {f g : GatedFilter α}
    (act : FusionAct samples f g) : g.flowVariance = f.flowVariance := by
  cases act with
  | correct k measured _ =>
      unfold correct
      dsimp only
      split <;> rfl
  | _ => rfl

end GatedFilter

namespace Flight

variable {α : Type} [Scalar α]

/-- No step changes the variances of flow. -/
theorem flowVariance_step (f : Flight α (GatedFilter α)) (k : FlightStep α (GatedFilter α))
    (hk : ∀ change, k = .adjust change → ∀ c, (change c).flowVariance = c.flowVariance) :
    (f.step k).core.flowVariance = f.core.flowVariance := by
  cases k with
  | update clock samples =>
      obtain ⟨_, _, _, _, _, _, rewritten⟩ := f.core.rewritten_update f.arbiter clock samples
      show (f.cycle clock samples).core.flowVariance = f.core.flowVariance
      rw [cycle, rewritten]
      rfl
  | setInAir _ | predict _ _ _ => rfl
  | fuse input =>
      exact kept_of_acts (P := fun g => g.flowVariance = f.core.flowVariance)
        (f.core.fuseActive_acts f.arbiter.standing.health input)
        (fun h act => (GatedFilter.flowVariance_fusionAct act).trans h) rfl
  | adjust change => exact hk change rfl f.core

theorem flowVariance_after (f : Flight α (GatedFilter α))
    (steps : List (FlightStep α (GatedFilter α)))
    (kept : ∀ change, .adjust change ∈ steps → ∀ c, (change c).flowVariance = c.flowVariance) :
    (f.after steps).core.flowVariance = f.core.flowVariance := by
  refine after_keeps (P := fun g => g.core.flowVariance = f.core.flowVariance) steps ?_ rfl
  intro g k hk hg
  refine (flowVariance_step g k ?_).trans hg
  rintro change rfl
  exact kept change hk

end Flight

/-- In every flight of a filter made from settings in range, in exact arithmetic: if the least
quality is below 255, the variance of every flow measurement is defined and follows the law of the
two noises.  If it is 255, no variance is defined. -/
theorem flow_variance {settings : Settings PartialReal} (inRange : settings.check = .ok ())
    (arbiter : Arbiter PartialReal)
    (steps : List (FlightStep PartialReal (GatedFilter PartialReal)))
    (kept : ∀ change, .adjust change ∈ steps → ∀ c, (change c).flowVariance = c.flowVariance) :
    let flight : Flight PartialReal (GatedFilter PartialReal) := ⟨arbiter, .ofSettings settings⟩
    let core := (flight.after steps).core
    (settings.flowMinQuality ≠ 255 → ∃ best worst variance,
      settings.flowNoise = .value best ∧ settings.flowNoiseWorst = .value worst ∧
      (∀ w, core.flowVariance w = .value (variance w.quality)) ∧
      FlowLaw best worst settings.flowMinQuality variance ∧
      ∀ q, variance q ∈ Set.uIcc (best ^ 2) (worst ^ 2)) ∧
    (settings.flowMinQuality = 255 → ∀ w, core.flowVariance w = .undefined) := by
  intro flight core
  have same : core.flowVariance = flight.core.flowVariance := flight.flowVariance_after steps kept
  obtain ⟨best, hb, best_pos⟩ :=
    PartialReal.pos_iff.mp (Settings.check_eq_ok_iff.mp inRange).flowNoise.2
  obtain ⟨worst, hw, worst_pos⟩ :=
    PartialReal.pos_iff.mp (Settings.check_eq_ok_iff.mp inRange).flowNoiseWorst.2
  refine ⟨fun distant => ?_, fun full w => ?_⟩
  · have law := flowLaw best_pos worst_pos distant
    refine ⟨best, worst, _, hb, hw, fun w => ?_, law, law.within⟩
    rw [same]
    exact GatedFilter.flowVariance_value hb hw distant w
  · rw [same]
    exact GatedFilter.flowVariance_undefined full w

/-- Under the default settings, after a take-off and with the origin known, flow of full quality has
the square of the best noise for its variance, and flow without any quality that of the worst. -/
theorem flow_variance_default :
    let settings : Settings PartialReal := .default
    let flight : Flight PartialReal (GatedFilter PartialReal) :=
      ⟨.ofSettings settings, .ofSettings settings⟩
    let learnOrigin (c : GatedFilter PartialReal) : GatedFilter PartialReal :=
      { c with originSet := true }
    let steps := [.setInAir true, .adjust learnOrigin]
    let core := (flight.after steps).core
    settings.check = .ok () ∧ settings.flowMinQuality ≠ 255 ∧
      (∀ change, .adjust change ∈ steps → ∀ c, (change c).flowVariance = c.flowVariance) ∧
      ∀ w, (w.quality = 255 → core.flowVariance w = .value (0.15 ^ 2)) ∧
        (w.quality = 0 → core.flowVariance w = .value (0.5 ^ 2)) := by
  intro settings flight learnOrigin steps core
  have inRange : settings.check = .ok () :=
    Settings.check_eq_ok_iff.mpr (Settings.inRange_default 1)
  have distant : settings.flowMinQuality ≠ 255 := by decide
  have kept : ∀ change, .adjust change ∈ steps → ∀ c, (change c).flowVariance = c.flowVariance := by
    intro change hk c
    simp only [steps, List.mem_cons, reduceCtorEq, FlightStep.adjust.injEq, List.not_mem_nil,
      or_false, false_or] at hk
    rw [hk]
    rfl
  obtain ⟨defined, -⟩ := flow_variance inRange (.ofSettings settings) steps kept
  obtain ⟨best, worst, variance, hb, hw, computed, law, -⟩ := defined distant
  obtain rfl : 0.15 = best := PartialReal.value_inj.mp hb
  obtain rfl : 0.5 = worst := PartialReal.value_inj.mp hw
  refine ⟨inRange, distant, kept, fun w => ⟨fun full => ?_, fun lowest => ?_⟩⟩
  · exact (computed w).trans (by rw [full, law.full])
  · exact (computed w).trans (by rw [lowest, law.low 0 (by decide)])

/-- The settings in force unless told otherwise, but with no quality below the least one. -/
def Settings.fullQuality {α : Type} [Scalar α] : Settings α :=
  { Settings.default with flowMinQuality := 255 }

/-- They are in range too, and then the best flow has no variance: it is undefined in exact
arithmetic, and not finite in floats. -/
theorem flow_variance_fullQuality :
    let real : GatedFilter PartialReal := .ofSettings .fullQuality
    let float : GatedFilter Float := .ofSettings .fullQuality
    (Settings.fullQuality : Settings PartialReal).check = .ok () ∧
    real.flowVariance ⟨0, .zero, .zero, 0.1, 255⟩ = .undefined ∧
    (Settings.fullQuality : Settings Float).check = .ok () ∧
    Scalar.isFinite (float.flowVariance ⟨0, .zero, .zero, 0.1, 255⟩) = false := by
  intro real float
  have inRange : (Settings.fullQuality : Settings PartialReal).check = .ok () :=
    Settings.check_eq_ok_iff.mpr (Settings.inRange_default 255)
  exact ⟨inRange, GatedFilter.flowVariance_undefined rfl _, rfl, by decide +kernel⟩

end NavArbiter

/-
# The law of a gated correction

A correction of a component looks at the difference `d` to what was measured of it, at the variance
`P` of the component and at the variance `R` of the measurement:

    found                             done
    neither velocity nor position     refused
    P + R ≤ 0                         refused
    25 (P + R) ≤ d²                   refused
    otherwise                         accepted

A refusal leaves the filter as it is, and the order of the tests does not matter.  What is accepted
splits in the shares `P / (P + R)` and `R / (P + R)`: the first is taken off the difference and off
the variance, the second is left of both.  From any other entry goes a product of two entries of one
column (`get_correct`), from a variance so a square, and no variance grows whatever the covariance
was (`variance_correct_le`).
-/
import Mathlib.LinearAlgebra.Matrix.PosDef
import Mathlib.Tactic.IntervalCases
import NavArbiter.Proofs.CoreActions
import NavArbiter.Proofs.CovarianceMatrix
import NavArbiter.Proofs.FilterActions

namespace NavArbiter

/-! ## The covariance -/

namespace Covariance

variable {p : Covariance ℝ} {k : Fin stateDim} {total : ℝ}

theorem get_correct (p : Covariance ℝ) (k : Fin stateDim) (total : ℝ) (i j : Fin stateDim) :
    (p.correct k total).get i j = p.get i j - p.get i k * p.get j k / total := by
  rw [correct, get_ofEntries, div_mul_eq_mul_div]

/-- A square is taken off each variance. -/
theorem variance_correct_le (positive : 0 < total) (i : Fin stateDim) :
    (p.correct k total).variance i ≤ p.variance i := by
  have share : 0 ≤ p.get i k * p.get i k / total := div_nonneg (mul_self_nonneg _) positive.le
  rw [variance, get_correct]
  exact sub_le_self _ share

/-- Of the variance of the corrected state a share is left. -/
theorem variance_correct_self {measured : ℝ} (positive : 0 < p.variance k + measured) :
    (p.correct k (p.variance k + measured)).variance k =
      p.variance k * measured / (p.variance k + measured) := by
  rw [variance, get_correct]
  show p.variance k - p.variance k * p.variance k / (p.variance k + measured) = _
  field_simp
  ring

end Covariance

namespace NavState

variable {α : Type}

theorem set_get (n : NavState α) (k : Component) : n.set k (n.get k) = n := by
  cases k <;> rfl

end NavState

/-- Velocity and position are the states from 4 to 9. -/
theorem Component.exists_state_iff {i : Nat} :
    (∃ k : Component, k.state.val = i) ↔ 4 ≤ i ∧ i ≤ 9 := by
  constructor
  · rintro ⟨k, rfl⟩
    cases k <;> decide
  · rintro ⟨low, high⟩
    interval_cases i
    · exact ⟨velNorth, rfl⟩
    · exact ⟨velEast, rfl⟩
    · exact ⟨velDown, rfl⟩
    · exact ⟨posNorth, rfl⟩
    · exact ⟨posEast, rfl⟩
    · exact ⟨posDown, rfl⟩

theorem Component.state_of_ofState? {i : Nat} {k : Component} (h : ofState? i = some k) :
    k.state.val = i := by
  unfold ofState? at h
  split at h <;> cases h <;> rfl

/-- A correction by number corrects the one component with that number, if there is one. -/
theorem GatedFilter.correctState_cases {α : Type} [Scalar α] (f : GatedFilter α) (i : Nat)
    (measured variance : α) :
    (¬ (4 ≤ i ∧ i ≤ 9) ∧ f.correctState i measured variance = (Verdict.refused, f)) ∨
      ∃ k : Component, k.state.val = i ∧ (∀ l : Component, l.state.val = i → l = k) ∧
        f.correctState i measured variance = f.correct k measured variance := by
  unfold correctState
  cases h : Component.ofState? i with
  | none =>
      refine Or.inl ⟨fun inside => ?_, rfl⟩
      obtain ⟨k, rfl⟩ := Component.exists_state_iff.mpr inside
      rw [Component.ofState?_state] at h
      cases h
  | some k =>
      refine Or.inr ⟨k, Component.state_of_ofState? h, fun l hl => ?_, rfl⟩
      rw [← hl, Component.ofState?_state] at h
      exact Option.some.inj h

/-! ## The gate -/

namespace GatedFilter

/-- The variance of the innovation is positive, and the difference is less than five of its standard
deviations. -/
structure WithinGate (f : GatedFilter ℝ) (k : Component) (measured variance : ℝ) : Prop where
  positive : 0 < f.covariance.variance k.state + variance
  near : (f.nav.get k - measured) ^ 2 < 25 * (f.covariance.variance k.state + variance)

/-- The tests of a correction, as they are made. -/
theorem gate_closed_iff {difference total : ℝ} :
    (1.0 : ℝ) ≤ difference * difference / (gate * gate * total) ∨ total ≤ (0.0 : ℝ) ↔
      ¬ (0 < total ∧ difference ^ 2 < 25 * total) := by
  have five : (gate : ℝ) * gate * total = 25 * total := by
    show (5.0 : ℝ) * 5.0 * total = 25 * total
    norm_num
  rw [five, ← sq]
  norm_num
  constructor
  · rintro (far | closed) positive
    · exact (one_le_div (by positivity)).mp far
    · exact absurd positive closed.not_gt
  · intro far
    rcases le_or_gt total 0 with closed | positive
    · exact Or.inr closed
    · exact Or.inl ((one_le_div (by positivity)).mpr (far positive))

/-- What an accepted correction of a component makes of a filter. -/
structure Corrected (f : GatedFilter ℝ) (k : Component) (measured variance : ℝ)
    (f' : GatedFilter ℝ) : Prop where
  frame : ∃ value p, f' = { f with nav := f.nav.set k value, covariance := p }
  residual : f'.nav.get k - measured =
    (f.nav.get k - measured) * (variance / (f.covariance.variance k.state + variance))
  ownVariance : f'.covariance.variance k.state =
    f.covariance.variance k.state * variance / (f.covariance.variance k.state + variance)
  /-- Each entry is made of entries from before the correction. -/
  entries : ∀ i j, f'.covariance.get i j = f.covariance.get i j -
    f.covariance.get i k.state * f.covariance.get j k.state /
      (f.covariance.variance k.state + variance)
  variances : ∀ i, f'.covariance.variance i ≤ f.covariance.variance i
  symmetric : (∀ i j, f.covariance.get i j = f.covariance.get j i) →
    ∀ i j, f'.covariance.get i j = f'.covariance.get j i

variable {f : GatedFilter ℝ} {k : Component} {measured variance : ℝ}

/-- A filter that is as it was has one component written with its own value. -/
theorem exists_frame_self (f : GatedFilter ℝ) (k : Component) :
    ∃ value p, f = { f with nav := f.nav.set k value, covariance := p } :=
  ⟨f.nav.get k, f.covariance, by rw [NavState.set_get]⟩

/-- The filter after an accepted correction. -/
theorem corrected (gate : f.WithinGate k measured variance) :
    let total := f.covariance.variance k.state + variance
    let gain := f.covariance.variance k.state / total
    f.Corrected k measured variance { f with
      nav := f.nav.set k (f.nav.get k - gain * (f.nav.get k - measured))
      covariance := f.covariance.correct k.state total } := by
  intro total gain
  have positive : 0 < total := gate.positive
  refine ⟨⟨_, _, rfl⟩, ?_, Covariance.variance_correct_self positive,
    Covariance.get_correct _ _ _, Covariance.variance_correct_le positive, fun symm i j => ?_⟩
  · -- what the gain does not take off is the share of the measurement
    have kept : 1 - gain = variance / total := by
      rw [eq_div_iff positive.ne', sub_mul, one_mul, div_mul_cancel₀ _ positive.ne']
      exact add_sub_cancel_left _ _
    show (f.nav.set k _).get k - measured = (f.nav.get k - measured) * (variance / total)
    rw [NavState.get_set, if_pos rfl, ← kept]
    ring
  · show (f.covariance.correct k.state total).get i j = (f.covariance.correct k.state total).get j i
    rw [Covariance.get_correct, Covariance.get_correct, symm i j, mul_comm (f.covariance.get i _)]

/-- A correction is accepted within the gate, and a refused one does nothing. -/
theorem correct_cases (f : GatedFilter ℝ) (k : Component) (measured variance : ℝ) :
    let r := f.correct k measured variance
    (f.WithinGate k measured variance ∧ r.1.accepted = true ∧
        f.Corrected k measured variance r.2) ∨
      (¬ f.WithinGate k measured variance ∧ r.1.accepted = false ∧ r.2 = f) := by
  have tests : ∀ total, total = f.covariance.variance k.state + variance →
      ((0 < total ∧ (f.nav.get k - measured) ^ 2 < 25 * total) ↔
        f.WithinGate k measured variance) := by
    rintro _ rfl
    exact ⟨fun h => ⟨h.1, h.2⟩, fun h => ⟨h.positive, h.near⟩⟩
  unfold correct
  dsimp only
  split
  · next closed =>
    exact Or.inr ⟨mt (tests _ rfl).mpr (gate_closed_iff.mp closed), rfl, rfl⟩
  · next opened =>
    have gate := (tests _ rfl).mp (not_not.mp (mt gate_closed_iff.mpr opened))
    exact Or.inl ⟨gate, rfl, corrected gate⟩

theorem correct_difference (f : GatedFilter ℝ) (k : Component) (measured variance : ℝ) :
    (f.correct k measured variance).1.difference = f.nav.get k - measured := by
  unfold correct
  dsimp only
  split <;> rfl

/-! ## The law -/

/-- Every correction of every filter: it touches one component and the covariance at most; it is
refused for any state but 4 to 9, and a refusal leaves the filter as it is; for the others it is
accepted exactly within the gate, and then the difference and the variance are left with the share
of the measurement, every entry of the covariance is computed from those before, and no variance
grows. -/
theorem gated_correction (f : GatedFilter ℝ) (i : Nat) (measured variance : ℝ) :
    let r := f.correctState i measured variance
    (∃ k value p, r.2 = { f with nav := f.nav.set k value, covariance := p }) ∧
    (r.1.accepted = false → r.2 = f) ∧
    (¬ (4 ≤ i ∧ i ≤ 9) → r.1.accepted = false) ∧
    ∀ k : Component, k.state.val = i →
      r.1.difference = f.nav.get k - measured ∧
      (r.1.accepted = true ↔ f.WithinGate k measured variance) ∧
      (r.1.accepted = true → f.Corrected k measured variance r.2) := by
  intro r
  rcases f.correctState_cases i measured variance with
    ⟨outside, refused⟩ | ⟨k, index, only, addressed⟩
  · rw [show r = (Verdict.refused, f) from refused]
    exact ⟨⟨.posDown, f.exists_frame_self _⟩, fun _ => rfl, fun _ => rfl,
      fun l hl => absurd (Component.exists_state_iff.mp ⟨l, hl⟩) outside⟩
  · rw [show r = f.correct k measured variance from addressed]
    rcases f.correct_cases k measured variance with ⟨gate, accepted, done⟩ | ⟨gate, refused, left⟩
    · refine ⟨⟨k, done.frame⟩, fun hr => ?_, fun outside => ?_, fun l hl => ?_⟩
      · rw [accepted] at hr
        cases hr
      · exact absurd (Component.exists_state_iff.mp ⟨k, index⟩) outside
      · rw [only l hl]
        exact ⟨f.correct_difference k _ _, iff_of_true accepted gate, fun _ => done⟩
    · rw [left, refused]
      refine ⟨⟨k, f.exists_frame_self k⟩, fun _ => rfl, fun _ => rfl, fun l hl => ?_⟩
      rw [only l hl]
      exact ⟨f.correct_difference k _ _, iff_of_false Bool.false_ne_true gate, nofun⟩

/-! ## Fusions -/

theorem variance_fusionAct {samples : Histories ℝ} {f' : GatedFilter ℝ}
    (act : FusionAct samples f f') (i : Fin stateDim) :
    f'.covariance.variance i ≤ f.covariance.variance i := by
  cases act with
  | correct k measured =>
      rcases f.correct_cases k measured _ with ⟨-, -, done⟩ | ⟨-, -, left⟩
      · exact done.variances i
      · rw [left]
  | consume | recordVerdict | measureTerrain => exact le_rfl

/-- So a fusion makes no variance grow, whichever samples it takes and whichever it refuses. -/
theorem variance_fuseActive (f : GatedFilter ℝ) (health : Health) (input : FusionInput ℝ)
    (i : Fin stateDim) :
    (f.fuseActive health input).core.covariance.variance i ≤ f.covariance.variance i :=
  kept_of_acts (P := fun g => g.covariance.variance i ≤ f.covariance.variance i)
    (f.fuseActive_acts health input) (fun h act => (variance_fusionAct act i).trans h) le_rfl

end GatedFilter

end NavArbiter

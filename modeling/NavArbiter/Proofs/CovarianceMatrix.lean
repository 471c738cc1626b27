/-
# Covariances as matrices

Over the real numbers a covariance is a matrix, and each operation on it is one that keeps positive
semidefinite matrices what they are:

    inflate         P + D                          D diagonal, without a negative entry
    clearBlock      K P Kᵀ                         K diagonal, zero on the block and one elsewhere
    setVariance     K P Kᵀ + D                     on a state without correlations
    correct         (1 − g eᵀ) P (1 − g eᵀ)ᵀ + w c cᵀ

In the last line `c` is the column of the corrected state, `e` its unit vector and `g = c / t` the
gain, with `t` the variance of the state plus that of the measurement.  The code subtracts `g cᵀ`
instead; the two agree exactly if `w` is the variance of the measurement over `t²`, so it is there
that a measurement must not have a negative variance.
-/
import Mathlib.Algebra.Order.Star.Real
import Mathlib.LinearAlgebra.Matrix.PosDef
import NavArbiter.Proofs.Exact

namespace NavArbiter

open Matrix (vecMulVec)

/-- Zero as the definitions write it. -/
theorem Scalar.zero_real : @OfScientific.ofScientific ℝ Scalar.toOfScientific 0 true 1 = 0 := by
  show (0.0 : ℝ) = 0
  norm_num

namespace Covariance

/-- The matrix with the entries of a covariance. -/
def toMatrix (p : Covariance ℝ) : Matrix (Fin stateDim) (Fin stateDim) ℝ := Matrix.of p.get

@[simp] theorem toMatrix_apply (p : Covariance ℝ) (i j : Fin stateDim) :
    p.toMatrix i j = p.get i j := rfl

/-! ## Diagonals -/

theorem toMatrix_diagonal (d : Fin stateDim → ℝ) :
    (diagonal d).toMatrix = Matrix.diagonal d := by
  ext i j
  rw [toMatrix_apply, diagonal, get_ofEntries, Matrix.diagonal_apply, Scalar.zero_real]

theorem toMatrix_inflate (p : Covariance ℝ) (first last : Nat) (a : ℝ) :
    (p.inflate first last a).toMatrix = p.toMatrix + Matrix.diagonal fun i =>
      if first ≤ i.val ∧ i.val ≤ last then a else 0 := by
  ext i j
  rw [Matrix.add_apply, Matrix.diagonal_apply, toMatrix_apply, toMatrix_apply, inflate,
    get_ofEntries]
  by_cases hij : i = j
  · subst hij
    by_cases hi : first ≤ i.val ∧ i.val ≤ last
    · rw [if_pos ⟨rfl, hi⟩, if_pos rfl, if_pos hi]
    · rw [if_neg fun h => hi h.2, if_pos rfl, if_neg hi, add_zero]
  · rw [if_neg fun h => hij h.1, if_neg hij, add_zero]

theorem posSemidef_diagonal {d : Fin stateDim → ℝ} (h : ∀ i, 0 ≤ d i) :
    (diagonal d).toMatrix.PosSemidef := by
  rw [toMatrix_diagonal]
  exact Matrix.PosSemidef.diagonal h

theorem posSemidef_inflate {p : Covariance ℝ} (h : p.toMatrix.PosSemidef) (first last : Nat)
    {a : ℝ} (ha : 0 ≤ a) : (p.inflate first last a).toMatrix.PosSemidef := by
  rw [toMatrix_inflate]
  refine h.add (Matrix.PosSemidef.diagonal fun i => ?_)
  show 0 ≤ if first ≤ i.val ∧ i.val ≤ last then a else 0
  split
  · exact ha
  · exact le_rfl

/-! ## Blocks -/

theorem toMatrix_clearBlock (p : Covariance ℝ) (first last : Nat) :
    let kept : Fin stateDim → ℝ := fun i => if first ≤ i.val ∧ i.val ≤ last then 0 else 1
    (p.clearBlock first last).toMatrix =
      Matrix.diagonal kept * p.toMatrix * (Matrix.diagonal kept).conjTranspose := by
  intro kept
  ext i j
  rw [Matrix.diagonal_conjTranspose, Matrix.mul_diagonal, Matrix.diagonal_mul, toMatrix_apply,
    toMatrix_apply, clearBlock, get_ofEntries, Scalar.zero_real]
  show _ = kept i * p.get i j * kept j
  by_cases hi : first ≤ i.val ∧ i.val ≤ last
  · rw [if_pos (Or.inl hi), show kept i = 0 from if_pos hi, zero_mul, zero_mul]
  · by_cases hj : first ≤ j.val ∧ j.val ≤ last
    · rw [if_pos (Or.inr hj), show kept j = 0 from if_pos hj, mul_zero]
    · rw [if_neg (not_or.mpr ⟨hi, hj⟩), show kept i = 1 from if_neg hi,
        show kept j = 1 from if_neg hj, one_mul, mul_one]

theorem posSemidef_clearBlock {p : Covariance ℝ} (h : p.toMatrix.PosSemidef)
    (first last : Nat) : (p.clearBlock first last).toMatrix.PosSemidef := by
  rw [toMatrix_clearBlock]
  exact h.mul_mul_conjTranspose_same _

/-- A state without correlations to others. -/
def Uncorrelated (p : Covariance ℝ) (i : Fin stateDim) : Prop :=
  ∀ j, j ≠ i → p.get i j = 0 ∧ p.get j i = 0

theorem uncorrelated_clearBlock (p : Covariance ℝ) {first last : Nat} {i : Fin stateDim}
    (hi : first ≤ i.val ∧ i.val ≤ last) : (p.clearBlock first last).Uncorrelated i := by
  intro j _
  rw [clearBlock, get_ofEntries, get_ofEntries, if_pos (Or.inl hi), if_pos (Or.inr hi)]
  exact ⟨Scalar.zero_real, Scalar.zero_real⟩

theorem Uncorrelated.setVariance {p : Covariance ℝ} {i : Fin stateDim} (h : p.Uncorrelated i)
    (k : Fin stateDim) (a : ℝ) : (p.setVariance k a).Uncorrelated i := by
  intro j hj
  have row : ¬(k = i ∧ k = j) := fun ⟨hi, hk⟩ => hj (hk.symm.trans hi)
  have column : ¬(k = j ∧ k = i) := fun ⟨hk, hi⟩ => hj (hk.symm.trans hi)
  rw [Covariance.setVariance, get_set, get_set, if_neg row, if_neg column]
  exact h j hj

/-- Replacing a variance is clearing the state and adding the variance anew. -/
theorem toMatrix_setVariance {p : Covariance ℝ} {i : Fin stateDim} (h : p.Uncorrelated i)
    (a : ℝ) : (p.setVariance i a).toMatrix =
      (p.clearBlock i i).toMatrix + Matrix.diagonal (Pi.single i a) := by
  have only : ∀ k : Fin stateDim, (i.val ≤ k.val ∧ k.val ≤ i.val) ↔ k = i := by
    intro k
    rw [Fin.ext_iff]
    omega
  ext k l
  rw [Matrix.add_apply, Matrix.diagonal_apply, toMatrix_apply, toMatrix_apply,
    Covariance.setVariance, get_set, clearBlock, get_ofEntries, Scalar.zero_real]
  simp only [only]
  by_cases hk : k = i
  · subst hk
    by_cases hl : l = k
    · subst hl
      simp
    · simp [hl, Ne.symm hl, (h l hl).1]
  · by_cases hl : l = i
    · subst hl
      simp [hk, (h k hk).2, Ne.symm hk]
    · simp [hk, Ne.symm hk, hl]

theorem posSemidef_setVariance {p : Covariance ℝ} (h : p.toMatrix.PosSemidef)
    {i : Fin stateDim} (hi : p.Uncorrelated i) {a : ℝ} (ha : 0 ≤ a) :
    (p.setVariance i a).toMatrix.PosSemidef := by
  rw [toMatrix_setVariance hi]
  refine (posSemidef_clearBlock h i i).add (Matrix.PosSemidef.diagonal fun k => ?_)
  show 0 ≤ (Pi.single i a : Fin stateDim → ℝ) k
  by_cases hk : k = i
  · subst hk
    rw [Pi.single_eq_same]
    exact ha
  · rw [Pi.single_eq_of_ne hk]

/-- A block cleared, and variances written in two of its states, which may be one. -/
theorem posSemidef_isolate {p : Covariance ℝ} (h : p.toMatrix.PosSemidef) {first last : Nat}
    {i j : Fin stateDim} (hi : first ≤ i.val ∧ i.val ≤ last)
    (hj : first ≤ j.val ∧ j.val ≤ last) {a : ℝ} (ha : 0 ≤ a) :
    (((p.clearBlock first last).setVariance i a).setVariance j a).toMatrix.PosSemidef := by
  have hone := posSemidef_setVariance (posSemidef_clearBlock h first last)
    (uncorrelated_clearBlock p hi) ha
  exact posSemidef_setVariance hone ((uncorrelated_clearBlock p hj).setVariance i a) ha

/-! ## Corrections -/

theorem toMatrix_correct {p : Covariance ℝ} (h : p.toMatrix.PosSemidef) (k : Fin stateDim)
    {t : ℝ} (ht : t ≠ 0) :
    let column : Fin stateDim → ℝ := fun i => p.get i k
    let keep := 1 - vecMulVec (t⁻¹ • column) (Pi.single k 1)
    (p.correct k t).toMatrix = keep * p.toMatrix * keep.conjTranspose +
      ((t - p.variance k) / t ^ 2) • vecMulVec column (star column) := by
  intro column keep
  -- the row of the corrected state is its column, so `keep` takes `column` away on either side
  have symm : ∀ i j, p.get j i = p.get i j := fun i j => h.isHermitian.apply i j
  have left : keep * p.toMatrix =
      Matrix.of fun i j => p.get i j - t⁻¹ * column i * column j := by
    ext i j
    show (keep * p.toMatrix) i j = p.get i j - t⁻¹ * column i * column j
    rw [Matrix.sub_mul, Matrix.one_mul, Matrix.vecMulVec_mul, Matrix.sub_apply,
      Matrix.vecMulVec_apply, Matrix.single_one_vecMul]
    simp [column, symm j k]
  have both : ∀ i j, (keep * p.toMatrix * keep.conjTranspose) i j =
      p.get i j - t⁻¹ * column i * column j -
        (column i - t⁻¹ * column i * column k) * (t⁻¹ * column j) := by
    intro i j
    rw [left, Matrix.conjTranspose_sub, Matrix.conjTranspose_one, Matrix.mul_sub, Matrix.mul_one,
      Matrix.conjTranspose_vecMulVec, Matrix.mul_vecMulVec]
    simp [Matrix.sub_apply, Matrix.vecMulVec_apply, column]
    ring
  ext i j
  rw [Matrix.add_apply, both, toMatrix_apply, correct, get_ofEntries, Matrix.smul_apply,
    Matrix.vecMulVec_apply, Pi.star_apply, star_trivial, smul_eq_mul]
  show p.get i j - column i / t * column j =
    p.get i j - t⁻¹ * column i * column j -
        (column i - t⁻¹ * column i * column k) * (t⁻¹ * column j) +
      (t - column k) / t ^ 2 * (column i * column j)
  field_simp
  ring

/-- A correction by a measurement without a negative variance, past the guard of the gate. -/
theorem posSemidef_correct {p : Covariance ℝ} (h : p.toMatrix.PosSemidef) (k : Fin stateDim)
    {variance : ℝ} (hv : 0 ≤ variance) (ht : 0 < p.variance k + variance) :
    (p.correct k (p.variance k + variance)).toMatrix.PosSemidef := by
  have weight : 0 ≤ (p.variance k + variance - p.variance k) / (p.variance k + variance) ^ 2 := by
    rw [add_sub_cancel_left]
    positivity
  rw [toMatrix_correct h k ht.ne']
  exact (h.mul_mul_conjTranspose_same _).add
    ((Matrix.posSemidef_vecMulVec_self_star _).smul weight)

end Covariance

end NavArbiter

/-
# The gate and what is not a number

Comparisons with what is not a number never hold.  The gate of a correction is written as the two
comparisons that close it, so it closes on what compares and stays open on what does not:

    ratio           total           closed by              left open
    at least one    any             the ratio
    below one       above zero                             as it should be
    below one       zero or less    the total
    no number       zero or less    the total
    no number       above zero                             although nothing was compared
    no number       no number                              although nothing was compared

Every operation on something that is not a number gives no number, so the last two lines are met as
soon as the state, the measurement or one of the two variances is none, and besides where squares
overflow on both sides of the quotient.  What passes there spreads: a measurement that is no number
leaves a state that is none, and such a variance leaves no entry of the covariance a number.
-/
import Mathlib
import NavArbiter.Proofs.GatedCorrection

namespace NavArbiter

/-! ## What is not a number -/

namespace Binary64

open Float.Model

theorem isNaN_iff {x : Float} : x.isNaN = true ↔ x.toModel.unpack = .notANumber := by
  show x.toModel.unpack.isNaN = true ↔ _
  exact UnpackedFloat.isNaN_iff

/-- An operation that gives no number as soon as an operand is none. -/
def Strict (op : Float → Float → Float) : Prop :=
  ∀ x y, x.isNaN = true ∨ y.isNaN = true → (op x y).isNaN = true

/-- An operation is strict if it is so between unpacking and packing. -/
theorem strict_of_unpacked {op : UnpackedFloat → UnpackedFloat → UnpackedFloat}
    (left : ∀ u, op .notANumber u = .notANumber) (right : ∀ u, op u .notANumber = .notANumber) :
    Strict fun x y => ⟨.pack (op x.toModel.unpack y.toModel.unpack)⟩ := by
  intro x y h
  have none : op x.toModel.unpack y.toModel.unpack = .notANumber := by
    rcases h with h | h
    · rw [isNaN_iff.mp h, left]
    · rw [isNaN_iff.mp h, right]
  dsimp only
  rw [none]
  decide

theorem strict_add : Strict (· + ·) :=
  strict_of_unpacked (fun u => by cases u <;> rfl) (fun u => by cases u <;> rfl)

theorem strict_sub : Strict (· - ·) :=
  strict_of_unpacked (fun u => by cases u <;> rfl) (fun u => by cases u <;> rfl)

theorem strict_mul : Strict (· * ·) :=
  strict_of_unpacked (fun u => by cases u <;> rfl) (fun u => by cases u <;> rfl)

theorem strict_div : Strict (· / ·) :=
  strict_of_unpacked (fun u => by cases u <;> rfl) (fun u => by cases u <;> rfl)

/-! ## Order -/

theorem compare_eq_none_iff {u v : UnpackedFloat} :
    u.compare v = none ↔ u = .notANumber ∨ v = .notANumber := by
  fun_cases UnpackedFloat.compare u v <;> simp_all

theorem compare_magnitudes_swap (m n : Nat) (d e : Int) :
    ((compare d e).then (compare m n)).swap = (compare e d).then (compare n m) := by
  rw [Ordering.swap_then, ← Std.OrientedCmp.eq_swap, ← Std.OrientedCmp.eq_swap]

theorem compare_swap (u v : UnpackedFloat) : v.compare u = (u.compare v).map Ordering.swap := by
  fun_cases UnpackedFloat.compare u v with
  | case1 v => cases v <;> rfl
  | case3 s t => cases s <;> cases t <;> rfl
  -- two numbers below zero, and two above
  | case13 | case16 =>
      simp only [UnpackedFloat.compare, Option.map_some, compare_magnitudes_swap]
  | _ => simp_all [UnpackedFloat.compare]

/-- What is not at most something is greater, unless one of the two is no number. -/
theorem not_le_iff {x y : Float} : ¬ x ≤ y ↔ y < x ∨ x.isNaN = true ∨ y.isNaN = true := by
  have le : x ≤ y ↔ (x.toModel.unpack.compare y.toModel.unpack).any Ordering.isLE = true := by
    show Float.le x y = true ↔ _
    rw [Float.le, decide_eq_true_iff]
    rfl
  have lt : y < x ↔ y.toModel.unpack.compare x.toModel.unpack = some .lt := by
    show Float.lt y x = true ↔ _
    rw [Float.lt, decide_eq_true_iff]
    exact beq_iff_eq
  rw [le, lt, compare_swap x.toModel.unpack, isNaN_iff, isNaN_iff, ← compare_eq_none_iff]
  cases x.toModel.unpack.compare y.toModel.unpack with
  | none => simp
  | some o => cases o <;> simp

theorem not_le_iff_lt {x y : Float} (hx : x.isNaN = false) (hy : y.isNaN = false) :
    ¬ x ≤ y ↔ y < x := by
  rw [not_le_iff, hx, hy]
  simp

/-- What is no number is not less than anything. -/
theorem not_lt_of_isNaN {x y : Float} (h : x.isNaN = true) : ¬ x < y := by
  show ¬ Float.lt x y = true
  rw [Float.lt, decide_eq_true_iff]
  show ¬ (x.toModel.unpack.compare y.toModel.unpack == some .lt) = true
  rw [compare_eq_none_iff.mpr (Or.inl (isNaN_iff.mp h))]
  decide

end Binary64

/-! ## The gate -/

namespace GatedFilter

open Binary64

/-- The variance of the innovation of a component. -/
def innovationVariance (f : GatedFilter Float) (k : Component) (variance : Float) : Float :=
  f.covariance.variance k.state + variance

/-- What a correction of a component in floats does, with what is no number among others. -/
structure Screened (f : GatedFilter Float) (k : Component) (measured variance : Float)
    (r : Verdict Float × GatedFilter Float) : Prop where
  ratio : r.1.testRatio = (f.nav.get k - measured) * (f.nav.get k - measured) /
    (5.0 * 5.0 * f.innovationVariance k variance)
  /-- On numbers the gate accepts what is inside. -/
  ordered : r.1.testRatio.isNaN = false →
    (r.1.accepted = true ↔ r.1.testRatio < 1.0 ∧ 0.0 < f.innovationVariance k variance)
  /-- Nothing else is accepted from outside. -/
  strays : r.1.accepted = true ∧
      ¬ (r.1.testRatio < 1.0 ∧ 0.0 < f.innovationVariance k variance) ↔
    r.1.testRatio.isNaN = true ∧ ¬ f.innovationVariance k variance ≤ 0.0
  /-- The ratio is no number as soon as anything that it is made of is none. -/
  undefined : (f.nav.get k).isNaN = true ∨ measured.isNaN = true ∨
      (f.innovationVariance k variance).isNaN = true → r.1.testRatio.isNaN = true
  /-- A measurement that is no number and is accepted leaves a component that is none. -/
  poisoned : measured.isNaN = true → r.1.accepted = true → (r.2.nav.get k).isNaN = true
  /-- A variance that is no number is always accepted, and leaves no entry that is one. -/
  flooded : variance.isNaN = true →
    r.1.accepted = true ∧ ∀ i j, (r.2.covariance.get i j).isNaN = true

variable {f : GatedFilter Float} {k : Component} {measured variance : Float}

theorem ratio_isNaN (x z total : Float)
    (h : x.isNaN = true ∨ z.isNaN = true ∨ total.isNaN = true) :
    ((x - z) * (x - z) / (5.0 * 5.0 * total)).isNaN = true := by
  rcases h with hx | hz | ht
  · have none := strict_sub x z (Or.inl hx)
    exact strict_div _ _ (Or.inl (strict_mul _ _ (Or.inl none)))
  · have none := strict_sub x z (Or.inr hz)
    exact strict_div _ _ (Or.inl (strict_mul _ _ (Or.inl none)))
  · exact strict_div _ _ (Or.inr (strict_mul _ _ (Or.inr ht)))

/-- The tests of a correction, as they are made. -/
theorem gate_open_iff {ratio total : Float} (undefined : total.isNaN = true → ratio.isNaN = true) :
    ¬ ((1.0 : Float) ≤ ratio ∨ total ≤ (0.0 : Float)) ↔
      (ratio < 1.0 ∧ 0.0 < total) ∨ (ratio.isNaN = true ∧ ¬ total ≤ 0.0) := by
  have one : (1.0 : Float).isNaN = false := by decide +kernel
  have zero : (0.0 : Float).isNaN = false := by decide +kernel
  rw [not_or]
  cases h : ratio.isNaN with
  | true =>
      have open_ : ¬ (1.0 : Float) ≤ ratio := not_le_iff.mpr (Or.inr (Or.inr h))
      simp [open_, not_lt_of_isNaN h]
  | false =>
      have ht : total.isNaN = false := by
        by_contra ht
        rw [undefined (Bool.not_eq_false _ ▸ ht)] at h
        cases h
      rw [not_le_iff_lt one h, not_le_iff_lt ht zero]
      simp

theorem get_correct_isNaN (p : Covariance Float) (i : Fin stateDim) {total : Float}
    (h : total.isNaN = true) (a b : Fin stateDim) : ((p.correct i total).get a b).isNaN = true := by
  rw [Covariance.correct, Covariance.get_ofEntries]
  exact strict_sub _ _ (Or.inr (strict_mul _ _ (Or.inl (strict_div _ _ (Or.inr h)))))

/-- A refusal leaves the filter as it is. -/
theorem kept_of_refused (h : (f.correct k measured variance).1.accepted = false) :
    (f.correct k measured variance).2 = f := by
  revert h
  unfold correct
  dsimp only
  split
  · exact fun _ => rfl
  · exact nofun

/-- A correction of a component is screened, whatever the numbers in it. -/
theorem screened_correct (f : GatedFilter Float) (k : Component) (measured variance : Float) :
    Screened f k measured variance (f.correct k measured variance) := by
  have undefined := ratio_isNaN (f.nav.get k) measured (f.innovationVariance k variance)
  have opened := gate_open_iff fun h => undefined (Or.inr (Or.inr h))
  have total_isNaN (h : variance.isNaN = true) : (f.innovationVariance k variance).isNaN = true :=
    strict_add _ _ (Or.inr h)
  unfold correct
  dsimp only
  split
  · next closed =>
    have closed := mt opened.mpr (not_not.mpr closed)
    refine ⟨rfl, fun h => ?_, ?_, undefined, nofun, fun h => ?_⟩
    · exact iff_of_false Bool.false_ne_true fun inside => closed (Or.inl inside)
    · exact iff_of_false (fun h => Bool.false_ne_true h.1) fun stray => closed (Or.inr stray)
    · have none := undefined (Or.inr (Or.inr (total_isNaN h)))
      refine absurd (Or.inr ⟨none, ?_⟩) closed
      exact not_le_iff.mpr (Or.inr (Or.inl (total_isNaN h)))
  · next opened' =>
    have accepted := opened.mp opened'
    refine ⟨rfl, fun h => ?_, ?_, undefined, fun h _ => ?_, fun h => ⟨rfl, fun i j => ?_⟩⟩
    · refine iff_of_true rfl (accepted.resolve_right fun stray => ?_)
      exact Bool.false_ne_true (h.symm.trans stray.1)
    · refine ⟨fun h => accepted.resolve_left h.2, fun stray => ⟨rfl, fun inside => ?_⟩⟩
      exact not_lt_of_isNaN stray.1 inside.1
    · show ((f.nav.set k _).get k).isNaN = true
      rw [NavState.get_set, if_pos rfl]
      exact strict_sub _ _ (Or.inr (strict_mul _ _ (Or.inr (strict_sub _ _ (Or.inr h)))))
    · exact get_correct_isNaN _ _ (total_isNaN h) i j

/-! ## The law -/

/-- Every correction of every filter in floats.  It is refused for any state but velocity and
position, and a refusal leaves the filter as it is.  On numbers it is accepted exactly if the ratio
is below one and the variance of the innovation above zero.  What is accepted apart from that is
accepted because the ratio is no number and the variance of the innovation is not at most zero,
and with a measurement or a variance that is no number it leaves what is none. -/
theorem gate_open_to_unordered (f : GatedFilter Float) (i : Nat) (measured variance : Float) :
    let r := f.correctState i measured variance
    (r.1.accepted = false → r.2 = f) ∧
    (¬ (4 ≤ i ∧ i ≤ 9) → r.1.accepted = false) ∧
    ∀ k : Component, k.state.val = i → f.Screened k measured variance r := by
  intro r
  rcases f.correctState_cases i measured variance with
    ⟨outside, refused⟩ | ⟨k, index, only, addressed⟩
  · rw [show r = (Verdict.refused, f) from refused]
    exact ⟨fun _ => rfl, fun _ => rfl,
      fun l hl => absurd (Component.exists_state_iff.mp ⟨l, hl⟩) outside⟩
  · rw [show r = f.correct k measured variance from addressed]
    refine ⟨kept_of_refused, fun outside => ?_, fun l hl => ?_⟩
    · exact absurd (Component.exists_state_iff.mp ⟨k, index⟩) outside
    · rw [only l hl]
      exact f.screened_correct k measured variance

/-- A position that is measured to be no number is accepted by a new filter, and the position is
none after that.  So is one that is a number, and as far from the truth as its accuracy allows: both
squares overflow, and their quotient is no number. -/
theorem gate_open_to_nan :
    let f : GatedFilter Float := ofSettings .default
    let lost := f.correctState 9 (0.0 / 0.0) 1.0
    let far := f.correctState 7 1e200 (1e200 * 1e200)
    lost.1.accepted = true ∧ ¬ lost.1.testRatio < 1.0 ∧
      (lost.2.nav.get .posDown).isNaN = true ∧
      far.1.accepted = true ∧ ¬ far.1.testRatio < 1.0 := by
  decide +kernel

end GatedFilter

end NavArbiter

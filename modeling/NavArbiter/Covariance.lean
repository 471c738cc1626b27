/-
# The covariance matrix

A square matrix over the 24 error states.  Its view is `Covariance.get`; every operation is
given by the entries of its result, so `get_ofEntries` is all that is needed to compute with it.
-/
import NavArbiter.Scalar

namespace NavArbiter

/-- The number of error states: attitude 0 to 3, velocity 4 to 6, position 7 to 9, gyroscope bias
10 to 12, accelerometer bias 13 to 15, earth field 16 to 18, body field 19 to 21, wind 22 and
23. -/
abbrev stateDim : Nat := 24

/-- A 24 by 24 matrix by rows. -/
structure Covariance (α : Type) where
  rows : Vector (Vector α stateDim) stateDim

namespace Covariance

variable {α : Type}

/-- The entry in row `i` and column `j`. -/
def get (p : Covariance α) (i j : Fin stateDim) : α := (p.rows[i])[j]

/-- The matrix with these entries. -/
def ofEntries (f : Fin stateDim → Fin stateDim → α) : Covariance α where
  rows := Vector.ofFn fun i => Vector.ofFn fun j => f i j

@[simp] theorem get_ofEntries (f : Fin stateDim → Fin stateDim → α) (i j : Fin stateDim) :
    (ofEntries f).get i j = f i j := by
  simp [get, ofEntries]

/-- The matrix with these diagonal entries and zeros elsewhere. -/
def diagonal [Scalar α] (f : Fin stateDim → α) : Covariance α :=
  ofEntries fun i j => if i = j then f i else 0.0

/-- The matrix with one entry replaced. -/
def set (p : Covariance α) (i j : Fin stateDim) (a : α) : Covariance α where
  rows := p.rows.set i ((p.rows[i]).set j a)

theorem get_set (p : Covariance α) (i j : Fin stateDim) (a : α) (k l : Fin stateDim) :
    (p.set i j a).get k l = if i = k ∧ j = l then a else p.get k l := by
  simp only [get, set, Fin.getElem_fin, Vector.getElem_set, Fin.ext_iff]
  by_cases hi : i.val = k.val
  · by_cases hj : j.val = l.val
    · simp [hi, hj]
    · simp [hi, hj]
  · simp [hi]

/-- The variance of a state. -/
def variance (p : Covariance α) (i : Fin stateDim) : α := p.get i i

/-- The matrix with the variance of a state replaced. -/
def setVariance (p : Covariance α) (i : Fin stateDim) (a : α) : Covariance α := p.set i i a

/-- The matrix with a number added to the variance of each state from `first` to `last`. -/
def inflate [Scalar α] (p : Covariance α) (first last : Nat) (a : α) : Covariance α :=
  ofEntries fun i j =>
    if i = j ∧ first ≤ i.val ∧ i.val ≤ last then p.get i j + a else p.get i j

/-- The matrix with the rows and columns of the states from `first` to `last` set to zero. -/
def clearBlock [Scalar α] (p : Covariance α) (first last : Nat) : Covariance α :=
  ofEntries fun i j =>
    if (first ≤ i.val ∧ i.val ≤ last) ∨ (first ≤ j.val ∧ j.val ≤ last) then 0.0
    else p.get i j

/-- The matrix after a scalar correction of state `k`: less the product of the gain and the
column of that state. -/
def correct [Scalar α] (p : Covariance α) (k : Fin stateDim) (innovationVariance : α) :
    Covariance α :=
  ofEntries fun i j => p.get i j - p.get i k / innovationVariance * p.get j k

end Covariance

end NavArbiter

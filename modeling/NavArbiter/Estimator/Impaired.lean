/-
# A core whose resets can be made to fail

`Impaired C` stands in for a core of type `C`.  It refuses the resets that are blocked, without
passing them on, and may show other sensor offsets than the core behind it.  All else is left to
that core, so it serves to see what the arbitration does when a reset fails.
-/
import NavArbiter.Estimator

namespace NavArbiter

/-- The resets that are refused. -/
structure Blocked where
  position : Bool := false
  velocity : Bool := false
  height : Bool := false
  heading : Bool := false
  deriving DecidableEq, Repr

/-- A core behind a stand-in that may refuse resets. -/
structure Impaired (α C : Type) where
  core : C
  blocked : Blocked := {}
  baroOffset : Option α := none
  heightOffset : Option α := none

namespace Impaired

variable {α C : Type}

/-- The stand-in with the core behind it replaced. -/
def withCore (c : Impaired α C) (core : C) : Impaired α C := { c with core := core }

/-- Refuses a blocked reset, and passes any other on. -/
def guard (c : Impaired α C) (blocked : Bool) (reset : C → Bool × C) : Bool × Impaired α C :=
  if blocked then (false, c)
  else
    let r := reset c.core
    (r.1, c.withCore r.2)

instance [Estimator α C] : Estimator α (Impaired α C) where
  nav c := Estimator.nav c.core
  setNav c n := c.withCore (Estimator.setNav c.core n)
  covariance c := Estimator.covariance c.core
  setCovariance c p := c.withCore (Estimator.setCovariance c.core p)
  rotationVariances c := Estimator.rotationVariances c.core
  innovation c k := Estimator.innovation c.core k
  testRatio c k := Estimator.testRatio c.core k
  terrain c := Estimator.terrain c.core
  originSet c := Estimator.originSet c.core
  refreshDeclination c := c.withCore (Estimator.refreshDeclination c.core)
  flowVariance c s := Estimator.flowVariance c.core s
  baroOffset c := c.baroOffset.getD (Estimator.baroOffset c.core)
  heightOffset c := c.heightOffset.getD (Estimator.heightOffset c.core)
  resetPosition c s h := c.guard c.blocked.position (Estimator.resetPosition · s h)
  resetVelocity c s h := c.guard c.blocked.velocity (Estimator.resetVelocity · s h)
  resetHeight c s h := c.guard c.blocked.height (Estimator.resetHeight · s h)
  resetHeading c m := c.guard c.blocked.heading (Estimator.resetHeading · m)
  alignOutputs c := c.withCore (Estimator.alignOutputs c.core)
  outputs c := Estimator.outputs c.core
  setOutputs c o := c.withCore (Estimator.setOutputs c.core o)
  jumps c := Estimator.jumps c.core
  setJumps c l := c.withCore (Estimator.setJumps c.core l)

end Impaired

end NavArbiter

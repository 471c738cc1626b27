/-
# The estimator core, as the arbitration sees it

The arbitration does no estimation of its own.  It reads state, covariance and innovations
through the interface `Estimator`, writes what a start of flow or a loss of aiding calls for, and
asks the core to reset itself to a named source.  A core answers each such request; what it was
asked, and how it answered, is kept as a list of `Request`.

No law is asked of a core: it may answer as it likes.
-/
import NavArbiter.Component
import NavArbiter.Jump
import NavArbiter.Sensors
import NavArbiter.Source

namespace NavArbiter

/-- An estimator core of type `C` that computes with numbers of type `α`. -/
class Estimator (α : outParam Type) (C : Type) where
  nav : C → NavState α
  setNav : C → NavState α → C
  covariance : C → Covariance α
  setCovariance : C → Covariance α → C
  /-- Variances of the attitude error about the three axes. -/
  rotationVariances : C → Vec3 α
  innovation : C → Component → α
  /-- Squared innovation over the square of its gate. -/
  testRatio : C → Component → α
  /-- Vertical position of the terrain. -/
  terrain : C → α
  /-- The origin of the local frame is known. -/
  originSet : C → Bool
  refreshDeclination : C → C
  /-- Variance of an optical flow measurement. -/
  flowVariance : C → FlowSample α → α
  baroOffset : C → α
  heightOffset : C → α
  resetPosition : C → HorizontalSource → Histories α → Bool × C
  resetVelocity : C → HorizontalSource → Histories α → Bool × C
  resetHeight : C → HeightSource → Histories α → Bool × C
  resetHeading : C → Vec3 α → Bool × C
  /-- Sets every buffered output to the present state. -/
  alignOutputs : C → C
  outputs : C → History (OutputSample α)
  setOutputs : C → History (OutputSample α) → C
  jumps : C → JumpLog α
  setJumps : C → JumpLog α → C

/-- Something that a core was asked to do, with its answer. -/
inductive Request where
  | declination
  | alignOutputs
  | position (source : HorizontalSource) (granted : Bool)
  | velocity (source : HorizontalSource) (granted : Bool)
  | height (source : HeightSource) (granted : Bool)
  | heading (granted : Bool)
  deriving DecidableEq, Repr

/-- A core after requests, with the answer to the last one. -/
structure Reply (C : Type) where
  granted : Bool
  core : C
  requests : List Request

namespace Estimator

variable {α C : Type} [Estimator α C]

/-- The core with another horizontal position. -/
def setHorizontalPosition (c : C) (p : Vec2 α) : C :=
  setNav c ((nav c).withHorizontalPosition p)

/-- The core with another horizontal velocity. -/
def setHorizontalVelocity (c : C) (v : Vec2 α) : C :=
  setNav c ((nav c).withHorizontalVelocity v)

/-- The core at rest. -/
def stop [Scalar α] (c : C) : C := setNav c { nav c with velocity := .zero }

/-- The variance of a component. -/
def variance (c : C) (k : Component) : α := (covariance c).variance k.state

/-- The core with the variance of a component replaced. -/
def setVariance (c : C) (k : Component) (a : α) : C :=
  setCovariance c ((covariance c).setVariance k.state a)

/-- The core with the rows and columns of a block of states set to zero. -/
def clearBlock [Scalar α] (c : C) (first last : Nat) : C :=
  setCovariance c ((covariance c).clearBlock first last)

/-- The core with one more jump logged. -/
def recordJump (c : C) (j : Jump α) : C := setJumps c ((jumps c).record j)

/-- The core without the jumps that were waiting to be applied. -/
def dropJumps (c : C) : C := setJumps c (jumps c).cleared

/-- The core with the waiting jumps applied to its outputs. -/
def applyJumps [Scalar α] (c : C) : C :=
  let pending := (jumps c).pending
  let c := dropJumps c
  setOutputs c (Jump.applyAll pending (outputs c))

/-! ## Requests -/

/-- Asks for a reset of horizontal position. -/
def askPosition (c : C) (source : HorizontalSource) (h : Histories α) : Reply C :=
  let r := resetPosition c source h
  ⟨r.1, r.2, [.position source r.1]⟩

/-- Asks for a reset of horizontal velocity. -/
def askVelocity (c : C) (source : HorizontalSource) (h : Histories α) : Reply C :=
  let r := resetVelocity c source h
  ⟨r.1, r.2, [.velocity source r.1]⟩

/-- Asks for a reset of height. -/
def askHeight (c : C) (source : HeightSource) (h : Histories α) : Reply C :=
  let r := resetHeight c source h
  ⟨r.1, r.2, [.height source r.1]⟩

/-- Asks for a reset of heading to the field in the body frame. -/
def askHeading (c : C) (field : Vec3 α) : Reply C :=
  let r := resetHeading c field
  ⟨r.1, r.2, [.heading r.1]⟩

/-- Asks for a reset of heading to the newest magnetometer sample, if there is one. -/
def askHeadingFromMag (c : C) (h : Histories α) : Reply C :=
  match h.mag.newest? with
  | some m => askHeading c m.field
  | none => ⟨false, c, []⟩

end Estimator

end NavArbiter

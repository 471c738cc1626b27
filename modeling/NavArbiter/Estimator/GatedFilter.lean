/-
# A small estimator core with gated corrections

`GatedFilter` keeps the navigation state with its covariance and corrects one component at a
time: a measurement whose innovation lies outside the gate is refused, and an accepted one moves
the state and the covariance by the Kalman gain of that component.  Position, velocity, height
and heading can be reset to the newest sample of a source; each such jump is logged.

It is the core of the replay, and it satisfies the interface `Estimator` without promising more.
-/
import NavArbiter.Estimator
import NavArbiter.Settings

namespace NavArbiter

/-- Difference of prediction and measurement, and its square over that of the gate. -/
structure Innovation (α : Type) where
  difference : α
  testRatio : α

/-- The outcome of one scalar correction. -/
structure Verdict (α : Type) where
  difference : α
  testRatio : α
  accepted : Bool

/-- For each kind of measurement, the time of the last sample taken. -/
structure Consumed where
  gps : Option Time := none
  height : Option Time := none
  range : Option Time := none
  vision : Option Time := none
  flow : Option Time := none
  mag : Option Time := none
  airspeed : Option Time := none
  deriving DecidableEq, Repr

/-- An estimator core with gated scalar corrections. -/
structure GatedFilter (α : Type) where
  nav : NavState α
  covariance : Covariance α
  rotationVariances : Vec3 α
  innovations : Vector (Innovation α) 6
  terrain : α
  originSet : Bool
  declination : α
  baroOffset : α
  heightOffset : α
  flowNoise : α
  flowNoiseWorst : α
  flowMinQuality : UInt8
  baroNoise : α
  outputs : History (OutputSample α)
  jumps : JumpLog α
  consumed : Consumed

variable {α : Type} [Scalar α]

namespace GatedFilter

/-! ## Constants -/

/-- Variance of the attitude error about each axis at the start, and the most that a heading
reset leaves about the vertical. -/
def initialRotationVariance : α := 0.1

/-- Least variance that tilt converges to. -/
def minRotationVariance : α := 1e-6

/-- Time constant of tilt convergence at rest, in seconds. -/
def tiltTimeConstant : α := 2.0

/-- Growth of the attitude variances per second. -/
def rotationNoise : α := 1e-4

/-- Growth of the position variances per second. -/
def positionNoise : α := 0.05

/-- Growth of the velocity variances per second. -/
def velocityNoise : α := 0.1

/-- The gate of corrections, in standard deviations. -/
def gate : α := 5.0

/-- How many outputs are buffered. -/
def outputCapacity : Nat := 12

/-! ## Start and prediction -/

/-- The variance that a state has at the start. -/
def initialVariance (i : Fin stateDim) : α :=
  if i.val ≤ 3 then initialRotationVariance
  else if i.val ≤ 6 then 1.0
  else if i.val ≤ 9 then 25.0
  else 1e-3

/-- The core at the start. -/
def ofSettings (s : Settings α) : GatedFilter α where
  nav := .initial
  covariance := .diagonal initialVariance
  rotationVariances := .replicate initialRotationVariance
  innovations := Vector.replicate 6 ⟨0.0, 0.0⟩
  terrain := 0.0
  originSet := false
  declination := 0.0
  baroOffset := 0.0
  heightOffset := 0.0
  flowNoise := s.flowNoise
  flowNoiseWorst := s.flowNoiseWorst
  flowMinQuality := s.flowMinQuality
  baroNoise := s.baroNoise
  outputs := .empty outputCapacity
  jumps := {}
  consumed := {}

/-- Attitude variances after `dt` seconds: those of tilt decay while the vehicle is at rest, the
others grow. -/
def predictRotationVariances (v : Vec3 α) (dt : α) (atRest : Bool) : Vec3 α :=
  let z := v.z + rotationNoise * dt
  if atRest then
    let decay := Scalar.exp (-dt / tiltTimeConstant)
    ⟨Scalar.larger (v.x * decay) minRotationVariance,
     Scalar.larger (v.y * decay) minRotationVariance, z⟩
  else ⟨v.x + rotationNoise * dt, v.y + rotationNoise * dt, z⟩

/-- The core carried forward by `dt` seconds to `now`, with an output buffered. -/
def predict (f : GatedFilter α) (now : Time) (dt : α) (atRest : Bool) : GatedFilter α :=
  let nav := { f.nav with position := f.nav.position.add (f.nav.velocity.scale dt) }
  { f with
    nav := nav
    covariance := (f.covariance.inflate 7 9 (positionNoise * dt)).inflate 4 6 (velocityNoise * dt)
    rotationVariances := predictRotationVariances f.rotationVariances dt atRest
    outputs := f.outputs.push (nav.output now) }

/-! ## Scalar corrections -/

/-- The gated correction of a component by a measurement with this variance. -/
def correct (f : GatedFilter α) (c : Component) (measured variance : α) :
    Verdict α × GatedFilter α :=
  let difference := f.nav.get c - measured
  let total := f.covariance.variance c.state + variance
  let testRatio := difference * difference / (gate * gate * total)
  if 1.0 ≤ testRatio ∨ total ≤ 0.0 then (⟨difference, testRatio, false⟩, f)
  else
    let gain := f.covariance.variance c.state / total
    (⟨difference, testRatio, true⟩,
     { f with
       nav := f.nav.set c (f.nav.get c - gain * difference)
       covariance := f.covariance.correct c.state total })

/-- The verdict on a state that takes no corrections. -/
def Verdict.refused : Verdict α := ⟨0.0, 1.0 / 0.0, false⟩

/-- The gated correction of the state with this number; only velocity and position take one. -/
def correctState (f : GatedFilter α) (i : Nat) (measured variance : α) :
    Verdict α × GatedFilter α :=
  match Component.ofState? i with
  | some c => f.correct c measured variance
  | none => (Verdict.refused, f)

/-- The core with the innovation of a component replaced. -/
def setInnovation (f : GatedFilter α) (c : Component) (v : Innovation α) : GatedFilter α :=
  { f with innovations := f.innovations.set c.index v }

/-- The core with the innovation of a component taken from a verdict. -/
def recordVerdict (f : GatedFilter α) (c : Component) (v : Verdict α) : GatedFilter α :=
  f.setInnovation c ⟨v.difference, v.testRatio⟩

/-! ## Measurements -/

/-- The sample at a horizon, or the newest one. -/
def sampleAt {β : Type} [Timed β] (h : History β) : Option Time → Option β
  | some horizon => h.near? horizon
  | none => h.newest?

/-- The vertical position that a source measures, with the sample's time and the variance. -/
structure HeightMeasurement (α : Type) where
  time : Time
  down : α
  variance : α

/-- The vertical position measured by a source at a horizon, or last. -/
def heightMeasurement (f : GatedFilter α) (source : HeightSource) (h : Histories α)
    (at? : Option Time) : Option (HeightMeasurement α) :=
  match source with
  | .baro => (sampleAt h.baro at?).map fun b =>
      ⟨b.time, f.heightOffset - b.height + f.baroOffset, f.baroNoise * f.baroNoise⟩
  | .gps => (sampleAt h.gps at?).map fun g =>
      ⟨g.time, f.heightOffset - g.height, g.verticalAccuracy * g.verticalAccuracy⟩
  | .range => (sampleAt h.range at?).map fun r =>
      ⟨r.time, f.heightOffset - r.distance * f.nav.attitude.tiltCosine, 0.01⟩
  | .vision => (sampleAt h.vision at?).map fun v =>
      ⟨v.time, v.position.z, v.positionError * v.positionError⟩

/-- Variance of a flow measurement: the noise goes linearly with quality from that of the least
quality accepted to that of the best. -/
def flowVariance (f : GatedFilter α) (s : FlowSample α) : α :=
  let worst : α := Scalar.ofNat f.flowMinQuality.toNat
  let weight := Scalar.clamp 0.0 1.0 ((Scalar.ofNat s.quality.toNat - worst) / (255.0 - worst))
  let noise := f.flowNoiseWorst + weight * (f.flowNoise - f.flowNoiseWorst)
  noise * noise

/-- The declination of the estimated earth field, as long as it has a horizontal part. -/
def refreshDeclination (f : GatedFilter α) : GatedFilter α :=
  let field := f.nav.magEarth
  if 1e-3 < Scalar.hypot field.x field.y then
    { f with declination := Scalar.atan2 field.y field.x }
  else f

/-! ## Resets -/

/-- The core with a block of one or two components uncorrelated with all others and with each
other, each having this variance. -/
def isolate (f : GatedFilter α) (first last : Component) (variance : α) : GatedFilter α :=
  let p := f.covariance.clearBlock first.state.val last.state.val
  { f with covariance := (p.setVariance first.state variance).setVariance last.state variance }

/-- The core with one more jump logged. -/
def recordJump (f : GatedFilter α) (j : Jump α) : GatedFilter α :=
  { f with jumps := f.jumps.record j }

/-- The core moved to a horizontal position. -/
def moveTo (f : GatedFilter α) (p : Vec2 α) (variance : α) : GatedFilter α :=
  let delta := p.sub f.nav.position.horizontal
  ({ f with nav := f.nav.withHorizontalPosition p }.isolate .posNorth .posEast variance).recordJump
    (.horizontalPosition delta)

/-- The core set to a horizontal velocity. -/
def setSpeed (f : GatedFilter α) (v : Vec2 α) (variance : α) : GatedFilter α :=
  let delta := v.sub f.nav.velocity.horizontal
  ({ f with nav := f.nav.withHorizontalVelocity v }.isolate .velNorth .velEast variance).recordJump
    (.horizontalVelocity delta)

/-- The core moved to a vertical position. -/
def moveDownTo (f : GatedFilter α) (down variance : α) : GatedFilter α :=
  let delta := down - f.nav.position.z
  ({ f with nav := f.nav.set .posDown down }.isolate .posDown .posDown variance).recordJump
    (.verticalPosition delta)

/-- The core set to a vertical velocity. -/
def setDescent (f : GatedFilter α) (speed variance : α) : GatedFilter α :=
  let delta := speed - f.nav.velocity.z
  ({ f with nav := f.nav.set .velDown speed }.isolate .velDown .velDown variance).recordJump
    (.verticalVelocity delta)

/-- Resets horizontal position to the newest sample of a source. -/
def resetPosition (f : GatedFilter α) (source : HorizontalSource) (h : Histories α) :
    Bool × GatedFilter α :=
  match source with
  | .gps =>
      match h.gps.newest? with
      | some g => (true, f.moveTo g.position (g.horizontalAccuracy * g.horizontalAccuracy))
      | none => (false, f)
  | .vision =>
      match h.vision.newest? with
      | some v => (true, f.moveTo v.position.horizontal (v.positionError * v.positionError))
      | none => (false, f)

/-- Resets horizontal velocity to the newest sample of a source; vision carries no velocity and
starts from rest. -/
def resetVelocity (f : GatedFilter α) (source : HorizontalSource) (h : Histories α) :
    Bool × GatedFilter α :=
  match source with
  | .gps =>
      match h.gps.newest? with
      | some g => (true, f.setSpeed g.velocity.horizontal (g.speedAccuracy * g.speedAccuracy))
      | none => (false, f)
  | .vision =>
      match h.vision.newest? with
      | some _ => (true, f.setSpeed .zero 0.25)
      | none => (false, f)

/-- Resets vertical position to the newest sample of a source, and with satellite height also
vertical velocity. -/
def resetHeight (f : GatedFilter α) (source : HeightSource) (h : Histories α) :
    Bool × GatedFilter α :=
  match f.heightMeasurement source h none with
  | none => (false, f)
  | some m =>
      let f := f.moveDownTo m.down m.variance
      match source, h.gps.newest? with
      | .gps, some g => (true, f.setDescent g.velocity.z (g.speedAccuracy * g.speedAccuracy))
      | _, _ => (true, f)

/-- The heading at which a field measured with this attitude points along the declination. -/
def headingOf (f : GatedFilter α) (field : Vec3 α) : α :=
  let a := f.nav.attitude.angles
  let level := (Attitude.ofAngles a.roll a.pitch 0.0).apply field
  let magnetic := -Scalar.atan2 level.y level.x
  magnetic + f.declination

/-- Resets yaw to a field measured in the body frame, unless that is not finite or too weak. -/
def resetHeading (f : GatedFilter α) (field : Vec3 α) : Bool × GatedFilter α :=
  if !field.isFinite || decide (field.norm < 1e-6) then (false, f)
  else
    let old := f.nav.attitude
    let new := old.withYaw (f.headingOf field)
    let f := { f with
      nav := { f.nav with attitude := new, magEarth := new.apply field }
      rotationVariances := { f.rotationVariances with
        z := Scalar.smaller f.rotationVariances.z initialRotationVariance } }
    (true, f.recordJump (.attitude (new.difference old)))

/-- Sets every buffered output to the present state. -/
def alignOutputs (f : GatedFilter α) : GatedFilter α :=
  { f with outputs := f.outputs.map fun o => f.nav.output o.time }

instance : Estimator α (GatedFilter α) where
  nav := GatedFilter.nav
  setNav f n := { f with nav := n }
  covariance := GatedFilter.covariance
  setCovariance f p := { f with covariance := p }
  rotationVariances := GatedFilter.rotationVariances
  innovation f c := f.innovations[c.index].difference
  testRatio f c := f.innovations[c.index].testRatio
  terrain := GatedFilter.terrain
  originSet := GatedFilter.originSet
  refreshDeclination := refreshDeclination
  flowVariance := flowVariance
  baroOffset := GatedFilter.baroOffset
  heightOffset := GatedFilter.heightOffset
  resetPosition := resetPosition
  resetVelocity := resetVelocity
  resetHeight := resetHeight
  resetHeading := resetHeading
  alignOutputs := alignOutputs
  outputs := GatedFilter.outputs
  setOutputs f o := { f with outputs := o }
  jumps := GatedFilter.jumps
  setJumps f l := { f with jumps := l }

end GatedFilter

end NavArbiter

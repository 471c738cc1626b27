/-
# Height

First the active source is watched: if height was not corrected for too long while its variance is
large, the core is reset to the source that `Height.choose` names, and a source that was left
behind is marked faulty.  Then the preferred source is selected again if it is sound and present.

The choice is a function of a record of ten facts and nothing else.
-/
import NavArbiter.Control.Outcome

namespace NavArbiter.Height

/-- The facts on which the source of a height reset is chosen. -/
structure Facts where
  active : HeightSource
  baroFresh : Bool := false
  gpsFresh : Bool := false
  /-- The reported vertical accuracy is within the required limit. -/
  gpsAccurate : Bool := false
  gpsFaulty : Bool := false
  baroFaulty : Bool := false
  /-- The barometer agrees with the estimate. -/
  baroConsistent : Bool := false
  /-- An inertial fault was suspected not long ago. -/
  recentInertialFault : Bool := false
  rangeFresh : Bool := false
  visionFresh : Bool := false
  deriving DecidableEq, Repr

/-- The source to reset height to after the active one timed out, if there is any. -/
def choose (f : Facts) : Option HeightSource :=
  match f.active with
  | .baro =>
      let trusted := f.gpsFresh && f.gpsAccurate && !f.gpsFaulty && !f.recentInertialFault
      if trusted || (f.gpsFresh && !f.baroFresh) then some .gps
      else if f.baroFresh then some .baro
      else none
  | .gps =>
      let trusted := f.baroConsistent && f.baroFresh && !f.baroFaulty && !f.gpsAccurate
      if trusted || (!f.gpsFresh && f.baroFresh) then some .baro
      else if f.gpsFresh then some .gps
      else none
  | .range =>
      if f.rangeFresh then some .range
      else if f.baroFresh then some .baro
      else none
  | .vision =>
      if f.visionFresh then some .vision
      else if f.baroFresh then some .baro
      else none

variable {α C : Type} [Scalar α] [Estimator α C]

/-! ## Inertial faults -/

/-- Barometer and satellite navigation, both recent, contradict vertical position and velocity in
the same direction, which points to the accelerometers rather than to a sensor. -/
def inertialFault (x : Context α) (c : C) : Bool :=
  let product := Estimator.innovation c .velDown * Estimator.innovation c .posDown
  decide (0.0 < product)
    && x.horizonFresh x.histories.baro (x.settings.heightMaxAge .baro)
    && x.horizonFresh x.histories.gps (x.settings.heightMaxAge .gps)
    && decide (1.0 < Estimator.testRatio c .velDown)
    && decide (1.0 < Estimator.testRatio c .posDown)

/-- Notes a suspected inertial fault while the barometer supplies height. -/
def watchInertial (x : Context α) (s : Standing α) (c : C) : Outcome α C :=
  if x.before.height = .baro ∧ inertialFault x c then
    ⟨s.mapHealth fun h => { h with lastInertialFault := some x.clock.now }, c,
      [.inertialFaultSuspected], []⟩
  else .unchanged s c

/-! ## Timeouts -/

/-- Height is uncertain and was not corrected for too long. -/
def timedOut (x : Context α) (s : Standing α) (c : C) : Bool :=
  !decide (Estimator.variance c .posDown ≤ x.settings.heightResetVariance)
    && decide (x.settings.timeouts.heightFusionTimeout < s.health.since .height x.clock.now)

/-- The newest barometric height agrees with the estimate within the gate. -/
def baroConsistent (x : Context α) (c : C) : Bool :=
  match x.histories.baro.newest? with
  | none => false
  | some b =>
      let down := Estimator.heightOffset c - b.height + Estimator.baroOffset c
      let difference := (Estimator.nav c).position.z - down
      let gate := x.settings.baroGate * x.settings.baroGate
      let noise := x.settings.baroNoise * x.settings.baroNoise
      decide (Scalar.abs difference < (noise + Estimator.variance c .posDown) * gate)

/-- The newest fix reports the required vertical accuracy. -/
def gpsAccurate (x : Context α) : Bool :=
  match x.histories.gps.newest? with
  | none => false
  | some g => decide (g.verticalAccuracy < x.settings.requiredVerticalAccuracy)

/-- The newest sample of a height source is recent. -/
def sourceFresh (x : Context α) (source : HeightSource) : Bool :=
  let maxAge := x.settings.heightMaxAge source
  match source with
  | .baro => x.isFresh x.histories.baro maxAge
  | .gps => x.isFresh x.histories.gps maxAge
  | .range => x.isFresh x.histories.range maxAge
  | .vision => x.isFresh x.histories.vision maxAge

/-- The facts for the choice of a source.  Satellite and range heights need yaw aligned. -/
def facts (x : Context α) (s : Standing α) (c : C) : Facts where
  active := x.before.height
  baroFresh := sourceFresh x .baro
  gpsFresh := sourceFresh x .gps && x.before.yawAligned
  gpsAccurate := gpsAccurate x
  gpsFaulty := s.health.isFaulty .gps
  baroFaulty := s.health.isFaulty .baro
  baroConsistent := baroConsistent x c
  recentInertialFault := decide (s.health.since .inertialFault x.clock.now
    < x.settings.timeouts.inertialFaultMemory)
  rangeFresh := x.before.yawAligned && sourceFresh x .range
  visionFresh := sourceFresh x .vision

/-- The health after height was reset from one source to another. -/
def healthAfterReset (h : Health) (source target : HeightSource) (now : Time) : Health :=
  let h := if target = source then h else h.setFaulty source.sensor true
  { h.setFaulty target.sensor false with lastHeight := some now }

/-- Resets height to the chosen source; nothing is kept unless the core granted the reset. -/
def resetTo (x : Context α) (target : HeightSource) (s : Standing α) (c : C) : Outcome α C :=
  let source := x.before.height
  let r := Estimator.askHeight c target x.histories
  if r.granted then
    { standing := (s.mapStatus fun t => { t with height := target }).mapHealth fun h =>
        healthAfterReset h source target x.clock.now
      core := r.core
      events := [.heightReset source target]
      requests := r.requests }
  else ⟨s, r.core, [.heightResetFailed source target], r.requests⟩

/-- Resets a height source that timed out. -/
def watchTimeout (x : Context α) (s : Standing α) (c : C) : Outcome α C :=
  if timedOut x s c then
    match choose (facts x s c) with
    | none => ⟨s, c, [.heightResetDenied x.before.height], []⟩
    | some target => resetTo x target s c
  else .unchanged s c

/-! ## Preferred source -/

/-- A sample of a height source lies at the fusion horizon. -/
def presentAtHorizon (x : Context α) (source : HeightSource) : Bool :=
  let maxAge := x.settings.heightMaxAge source
  match source with
  | .baro => x.horizonFresh x.histories.baro maxAge
  | .gps => x.horizonFresh x.histories.gps maxAge
  | .range => x.horizonFresh x.histories.range maxAge
  | .vision => x.horizonFresh x.histories.vision maxAge

/-- The preferred source carries no fault mark, and has yaw aligned if it needs that.  Vision
answers for itself. -/
def sound (x : Context α) (s : Standing α) (source : HeightSource) : Bool :=
  match source with
  | .baro => !s.health.isFaulty .baro
  | .gps => x.before.yawAligned && !s.health.isFaulty .gps
  | .range => x.before.yawAligned && !s.health.isFaulty .range
  | .vision => true

/-- Selects the preferred source if it is sound and present and another one is active. -/
def selectPreferred (x : Context α) (s : Standing α) (c : C) : Outcome α C :=
  let preferred := x.settings.preferredHeight
  if s.status.height ≠ preferred ∧ sound x s preferred ∧ presentAtHorizon x preferred then
    ⟨s.mapStatus fun t => { t with height := preferred }, c, [.heightSourceSelected preferred],
      []⟩
  else .unchanged s c

/-- Keeps the vertical position while on the ground. -/
def noteGround (x : Context α) (s : Standing α) (c : C) : Outcome α C :=
  if x.before.inAir then .unchanged s c
  else .unchanged { s with ground := (Estimator.nav c).position.z } c

/-- The height controller. -/
def control (x : Context α) (s : Standing α) (c : C) : Outcome α C :=
  (((watchInertial x s c).andThen (watchTimeout x)).andThen (selectPreferred x)).andThen
    (noteGround x)

end NavArbiter.Height

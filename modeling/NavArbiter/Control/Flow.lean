/-
# Optical flow

Flow starts when its samples and the terrain height are recent and yaw is, or can be, aligned.
Without satellite navigation the start also sets the horizontal velocity that the flow shows, and
on the ground the origin.  When flow stops being fused without satellite navigation, the last
position is held.
-/
import NavArbiter.Control.Outcome

namespace NavArbiter.Flow

variable {α C : Type} [Scalar α] [Estimator α C]

/-- Height above the ground clearance that a flow velocity needs, in metres. -/
def minRangeMargin : α := 0.3

/-- Integration interval that a flow velocity needs, in seconds. -/
def minInterval : α := 0.05

/-- Flow can start, up to the alignment of yaw. -/
def wantsStart (x : Context α) (s : Standing α) : Bool :=
  let maxAge := x.settings.timeouts.flowDataMaxAge
  !x.before.flow && x.before.tiltAligned && x.isFresh x.histories.flow maxAge
    && decide (s.health.since .terrain x.clock.now < maxAge)

/-- Flow was not fused for too long, and nothing else holds the position. -/
def isLost (x : Context α) (s : Standing α) : Bool :=
  x.before.flow && !x.before.gps
    && decide (x.settings.timeouts.flowFusionTimeout
        < (s.health.sensor .flow).sinceFusion x.clock.now)

/-- Distance to the ground along the body's down axis. -/
def groundRange (x : Context α) (c : C) : α :=
  let nav := Estimator.nav c
  let height := Scalar.larger (Estimator.terrain c - nav.position.z) x.settings.groundClearance
  height / nav.attitude.tiltCosine

/-- The horizontal velocity that a flow sample shows at a distance from the ground; zero if the
distance or the interval is too small to tell. -/
def velocityOf (x : Context α) (c : C) (range : α) (w : FlowSample α) : Vec2 α :=
  if minRangeMargin < range - x.settings.groundClearance ∧ minInterval < w.interval then
    let body : Vec3 α :=
      ⟨-range * w.flow.y / w.interval, range * w.flow.x / w.interval, 0.0⟩
    ((Estimator.nav c).attitude.rotation.apply body).horizontal
  else .zero

/-- The core with the velocity and velocity variances that a flow sample shows. -/
def seedVelocity (x : Context α) (c : C) (w : FlowSample α) : C :=
  let range := groundRange x c
  let variance := range * range * Estimator.flowVariance c w
  let c := Estimator.setHorizontalVelocity c (velocityOf x c range w)
  let c := Estimator.clearBlock c 4 5
  Estimator.setVariance (Estimator.setVariance c .velNorth variance) .velEast variance

/-- The core with its horizontal position made the origin, and the outputs set to it. -/
def seedOrigin (c : C) : C :=
  let c := Estimator.setHorizontalPosition c .zero
  let c := Estimator.clearBlock c 7 8
  let c := Estimator.setVariance (Estimator.setVariance c .posNorth 0.0) .posEast 0.0
  Estimator.alignOutputs (Estimator.dropJumps c)

/-- What a start does to the core without satellite navigation, and what it asks of it. -/
def seed (x : Context α) (c : C) : C × List Request :=
  if x.before.gps then (c, [])
  else
    match x.histories.flow.newest? with
    | none => (c, [])
    | some w =>
        let c := seedVelocity x c w
        if x.before.inAir then (c, []) else (seedOrigin c, [.alignOutputs])

/-- Starts flow if yaw is, or can be, aligned. -/
def start (x : Context α) (s : Standing α) (c : C) : Outcome α C :=
  let a := Alignment.ofMag x s c
  if a.standing.status.yawAligned then
    let seeded := seed x a.core
    { standing := (a.standing.mapStatus fun t => { t with flow := true }).mapHealth fun h =>
        h.recordFusion .flow x.clock.now
      core := seeded.1
      events := [.flowStarted]
      requests := a.requests ++ seeded.2 }
  else ⟨a.standing, a.core, [], a.requests⟩

/-- Gives flow up and holds the position. -/
def giveUp (s : Standing α) (c : C) : Outcome α C :=
  let anchor := (Estimator.nav c).position.horizontal
  { standing := { s.mapStatus fun t => { t with flow := false } with anchor := anchor }
    core := Estimator.stop c
    events := [.flowLost anchor]
    requests := [] }

/-- The optical flow controller. -/
def control (x : Context α) (s : Standing α) (c : C) : Outcome α C :=
  if x.settings.allowed.flow then
    if wantsStart x s then start x s c
    else if isLost x s then giveUp s c
    else .unchanged s c
  else if x.before.flow then
    ⟨s.mapStatus fun t => { t with flow := false }, c, [.flowDisabled], []⟩
  else .unchanged s c

end NavArbiter.Flow

/-
# The arbiter

`Arbiter.update` runs one arbitration cycle: the status is kept as that before the cycle, the
declination is refreshed, tilt is watched until it is aligned, and the controllers run in the order
vision, flow, satellite navigation, height, magnetometer.  At the end the jumps made on the way are
applied to the buffered outputs.

A controller tests what held before the cycle and writes what holds after it, so a source started
in one cycle is seen by the others in the next.  Only the loss of the magnetometer modes to vision
yaw is seen in the same cycle.
-/
import NavArbiter.Control.Flow
import NavArbiter.Control.Gps
import NavArbiter.Control.Height
import NavArbiter.Control.Mag
import NavArbiter.Control.Vision

namespace NavArbiter

/-- The arbitration with its settings, and the status before its last cycle. -/
structure Arbiter (α : Type) where
  settings : Settings α
  standing : Standing α
  before : Status

/-- An arbiter and a core after a cycle, with what the cycle announced and asked for. -/
structure Cycle (α C : Type) where
  arbiter : Arbiter α
  core : C
  events : List (Event α)
  requests : List Request

namespace Arbiter

variable {α C : Type} [Scalar α]

/-- The arbiter before its first cycle. -/
def ofSettings (s : Settings α) : Arbiter α := ⟨s, .initial, .initial⟩

/-- The arbiter before its first cycle, if its settings are in range. -/
def new (s : Settings α) : Except (SettingError α) (Arbiter α) := do
  s.check
  return ofSettings s

/-- The landing detector tells whether the vehicle is in the air. -/
def setInAir (a : Arbiter α) (inAir : Bool) : Arbiter α :=
  { a with standing := a.standing.mapStatus fun t => { t with inAir := inAir } }

variable [Estimator α C]

/-- The core with its declination refreshed. -/
def refreshDeclination (s : Standing α) (c : C) : Outcome α C :=
  ⟨s, Estimator.refreshDeclination c, [], [.declination]⟩

/-- The tilt variances are small enough for alignment. -/
def tiltConverged (settings : Settings α) (c : C) : Bool :=
  let v := Estimator.rotationVariances c
  decide (v.x + v.y < settings.timeouts.tiltAlignVariance)

/-- Aligns tilt once its variances are small, and yaw along with it if possible. -/
def watchTilt (x : Context α) (s : Standing α) (c : C) : Outcome α C :=
  if !s.status.tiltAligned && tiltConverged x.settings c then
    let r := Estimator.askHeadingFromMag c x.histories
    { standing := s.mapStatus fun t => { t with tiltAligned := true, yawAligned := r.granted }
      core := r.core
      events := [.tiltAligned r.granted]
      requests := r.requests }
  else .unchanged s c

/-- The controllers in their order. -/
def controllers (x : Context α) (s : Standing α) (c : C) : Outcome α C :=
  ((((Vision.control x s c).andThen (Flow.control x)).andThen (Gps.control x)).andThen
    (Height.control x)).andThen (Mag.control x)

/-- One arbitration cycle. -/
def update (a : Arbiter α) (clock : Clock) (h : Histories α) (c : C) : Cycle α C :=
  let x : Context α := ⟨clock, a.settings, h, a.standing.status⟩
  let o := ((refreshDeclination a.standing c).andThen (watchTilt x)).andThen (controllers x)
  { arbiter := ⟨a.settings, o.standing, a.standing.status⟩
    core := Estimator.applyJumps o.core
    events := o.events
    requests := o.requests }

end Arbiter

end NavArbiter

/-
# The magnetometer

Unless vision observes yaw, the magnetometer mode follows the policy of the settings.  On entering
three-axis fusion yaw is aligned anew.  Declination fusion and the validity of the wind estimate
are decided here too, and changes of all three are announced, also those made by another
controller in the same cycle.
-/
import NavArbiter.Control.Outcome

namespace NavArbiter.Mag

variable {α C : Type} [Scalar α] [Estimator α C]

/-- Three-axis fusion is due under the automatic policy: in the air with tilt aligned, once the
climb is high enough, and from then on until landing. -/
def autoThreeAxis (x : Context α) (s : Standing α) (c : C) : Bool :=
  let climb := s.ground - (Estimator.nav c).position.z
  x.before.inAir
    && (x.before.magThreeAxis || decide (x.settings.timeouts.threeAxisMinClimb < climb))
    && x.before.tiltAligned

/-- The mode that the policy wants. -/
def target (x : Context α) (s : Standing α) (c : C) : MagMode :=
  match x.settings.magPolicy with
  | .auto => if autoThreeAxis x s c then .threeAxis else .heading
  | .heading => .heading
  | .threeAxis => .threeAxis
  | .off => .off

/-- Aligns yaw anew when three-axis fusion is entered. -/
def enter (x : Context α) (mode : MagMode) (s : Standing α) (c : C) : Outcome α C :=
  if mode = .threeAxis ∧ !s.status.magThreeAxis then
    let r := Estimator.askHeadingFromMag c x.histories
    ⟨s.setYawAligned r.granted, r.core, [], r.requests⟩
  else .unchanged s c

/-- The status with mode, declination fusion and wind validity decided.  Without satellite
navigation declination is the only lasting reference of yaw. -/
def decideStatus (x : Context α) (mode : MagMode) (s : Standing α) : Status :=
  let t := (s.status.setMagMode mode).setDeclination
    (!x.before.gps || x.settings.fuseDeclination)
  let sinceAirspeed := (s.health.sensor .airspeed).sinceFusion x.clock.now
  { t with windValid := decide (sinceAirspeed ≤ x.settings.timeouts.airspeedTimeout) }

/-- The magnetometer group of the status while vision does not observe yaw. -/
def settle (x : Context α) (s : Standing α) (c : C) : Outcome α C :=
  if s.status.visionYaw then .unchanged s c
  else
    let mode := target x s c
    (enter x mode s c).andThen fun s c => .unchanged { s with status := decideStatus x mode s } c

/-- What changed in the magnetometer group and the wind estimate. -/
def announce (before now : Status) : List (Event α) :=
  (if before.magMode = now.magMode then [] else [.magModeChanged before.magMode now.magMode])
    ++ (if before.declination = now.declination then []
        else [.declinationFusion now.declination])
    ++ (if before.windValid = now.windValid then [] else [.windValidity now.windValid])

/-- The magnetometer controller. -/
def control (x : Context α) (s : Standing α) (c : C) : Outcome α C :=
  (settle x s c).andThen fun s c => ⟨s, c, announce x.before s.status, []⟩

end NavArbiter.Mag

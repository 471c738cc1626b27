/-
# The aiding status

Which sources may correct the estimate at present.  The yaw observer is one value, so the
magnetometer modes and vision yaw exclude each other; declination fusion is a flag of its own
that only `Status.setDeclination` sets, and only while the magnetometer is fused on three axes.
-/
import NavArbiter.Source

namespace NavArbiter

/-- The aiding configuration that the estimator core reads every cycle. -/
structure Status where
  tiltAligned : Bool := false
  yawAligned : Bool := false
  gps : Bool := false
  flow : Bool := false
  visionPosition : Bool := false
  inAir : Bool := false
  windValid : Bool := false
  height : HeightSource := .baro
  yaw : YawSource := .magnetometer .off
  declination : Bool := false
  deriving DecidableEq, Repr

namespace Status

/-- Nothing aligned, nothing fused but barometric height. -/
def initial : Status := {}

/-- Vision observes yaw. -/
def visionYaw (s : Status) : Bool := s.yaw == .vision

/-- The magnetometer mode in force; off while vision observes yaw. -/
def magMode (s : Status) : MagMode :=
  match s.yaw with
  | .magnetometer mode => mode
  | .vision => .off

/-- The magnetometer is fused as a heading. -/
def magHeading (s : Status) : Bool := s.magMode == .heading

/-- The magnetometer is fused on three axes. -/
def magThreeAxis (s : Status) : Bool := s.magMode == .threeAxis

/-- Vision takes yaw over; the magnetometer modes and declination fusion end with it. -/
def claimVisionYaw (s : Status) : Status := { s with yaw := .vision, declination := false }

/-- The status with a magnetometer mode selected, which vision yaw forbids. -/
def setMagMode? (s : Status) (mode : MagMode) : Option Status :=
  if s.visionYaw then none else some { s with yaw := .magnetometer mode }

/-- The status with a magnetometer mode selected, unless vision observes yaw. -/
def setMagMode (s : Status) (mode : MagMode) : Status := (s.setMagMode? mode).getD s

/-- The status with declination fusion wanted or not; it needs three-axis fusion. -/
def setDeclination (s : Status) (fuse : Bool) : Status :=
  { s with declination := fuse && s.magThreeAxis }

end Status

end NavArbiter

/-
# The status word

Telemetry packs the status into one word with a bit per flag.  The height source takes four of
the bits, one for each sensor, and the yaw observer three.  `Status.changes` lists the flags in
which the words of two statuses differ, and `Status.transitions` tells them by their names.
-/
import NavArbiter.Status

namespace NavArbiter

/-- A flag of the status word. -/
inductive Flag where
  | tiltAligned
  | yawAligned
  | gps
  | flow
  | magHeading
  | magThreeAxis
  | declination
  | inAir
  | windValid
  | baroHeight
  | rangeHeight
  | gpsHeight
  | visionPosition
  | visionYaw
  | visionHeight
  deriving DecidableEq, Repr

namespace Flag

/-- All flags, from the lowest bit upwards. -/
def all : List Flag :=
  [tiltAligned, yawAligned, gps, flow, magHeading, magThreeAxis, declination, inAir, windValid,
   baroHeight, rangeHeight, gpsHeight, visionPosition, visionYaw, visionHeight]

/-- The bit of a flag. -/
def position : Flag → Nat
  | tiltAligned => 0
  | yawAligned => 1
  | gps => 2
  | flow => 3
  | magHeading => 4
  | magThreeAxis => 5
  | declination => 6
  | inAir => 7
  | windValid => 8
  | baroHeight => 9
  | rangeHeight => 10
  | gpsHeight => 11
  | visionPosition => 12
  | visionYaw => 13
  | visionHeight => 14

/-- Name of a flag in telemetry. -/
def name : Flag → String
  | tiltAligned => "tilt_align"
  | yawAligned => "yaw_align"
  | gps => "gps"
  | flow => "opt_flow"
  | magHeading => "mag_hdg"
  | magThreeAxis => "mag_3D"
  | declination => "mag_dec"
  | inAir => "in_air"
  | windValid => "wind"
  | baroHeight => "baro_hgt"
  | rangeHeight => "rng_hgt"
  | gpsHeight => "gps_hgt"
  | visionPosition => "ev_pos"
  | visionYaw => "ev_yaw"
  | visionHeight => "ev_hgt"

/-- The flag holds in a status. -/
def isSet : Flag → Status → Bool
  | tiltAligned, s => s.tiltAligned
  | yawAligned, s => s.yawAligned
  | gps, s => s.gps
  | flow, s => s.flow
  | magHeading, s => s.magHeading
  | magThreeAxis, s => s.magThreeAxis
  | declination, s => s.declination
  | inAir, s => s.inAir
  | windValid, s => s.windValid
  | baroHeight, s => s.height == .baro
  | rangeHeight, s => s.height == .range
  | gpsHeight, s => s.height == .gps
  | visionPosition, s => s.visionPosition
  | visionYaw, s => s.visionYaw
  | visionHeight, s => s.height == .vision

end Flag

namespace Status

/-- The telemetry word of a status. -/
def word (s : Status) : Nat :=
  Flag.all.foldl (fun w f => if f.isSet s then w ||| 1 <<< f.position else w) 0

/-- The flags whose bits differ from those of `before`, lowest bit first, with their values
now. -/
def changes (now before : Status) : List (Flag × Bool) :=
  (Flag.all.filter fun f => (now.word ^^^ before.word).testBit f.position).map fun f =>
    (f, now.word.testBit f.position)

/-- The changes as telemetry tells them: the name of each flag, with its value now. -/
def transitions (now before : Status) : List (String × Bool) :=
  (now.changes before).map fun c => (c.1.name, c.2)

end Status

end NavArbiter

/-
# Samples in documents

Every field of a sample has to be given.
-/
import NavArbiter.Geometry.Json
import NavArbiter.Json.Value
import NavArbiter.Sample

namespace NavArbiter

open Json

namespace GpsSample

/-- The fields of a satellite fix. -/
def fields : List (Decode.Field (GpsSample Float)) :=
  [.field "time_us" .required Decode.time fun t s => { s with time := t },
   .field "pos" .required Vec2.decode fun v s => { s with position := v },
   .field "hgt" .required Decode.float fun x s => { s with height := x },
   .field "vel" .required Vec3.decode fun v s => { s with velocity := v },
   .field "hacc" .required Decode.float fun x s => { s with horizontalAccuracy := x },
   .field "vacc" .required Decode.float fun x s => { s with verticalAccuracy := x },
   .field "sacc" .required Decode.float fun x s => { s with speedAccuracy := x }]

/-- All numbers zero. -/
def zero : GpsSample Float := ⟨0, .zero, 0.0, .zero, 0.0, 0.0, 0.0⟩

def decode : Decoder (GpsSample Float) := Decode.record fields zero

def toJson (s : GpsSample Float) : Value := .record
  [("time_us", .natural s.time), ("pos", .ofVec2 s.position), ("hgt", .real s.height),
   ("vel", .ofVec3 s.velocity), ("hacc", .real s.horizontalAccuracy),
   ("vacc", .real s.verticalAccuracy), ("sacc", .real s.speedAccuracy)]

end GpsSample

namespace BaroSample

/-- The fields of a barometric height. -/
def fields : List (Decode.Field (BaroSample Float)) :=
  [.field "time_us" .required Decode.time fun t s => { s with time := t },
   .field "hgt" .required Decode.float fun x s => { s with height := x }]

/-- All numbers zero. -/
def zero : BaroSample Float := ⟨0, 0.0⟩

def decode : Decoder (BaroSample Float) := Decode.record fields zero

def toJson (s : BaroSample Float) : Value := .record
  [("time_us", .natural s.time), ("hgt", .real s.height)]

end BaroSample

namespace RangeSample

/-- The fields of a distance. -/
def fields : List (Decode.Field (RangeSample Float)) :=
  [.field "time_us" .required Decode.time fun t s => { s with time := t },
   .field "rng" .required Decode.float fun x s => { s with distance := x }]

/-- All numbers zero. -/
def zero : RangeSample Float := ⟨0, 0.0⟩

def decode : Decoder (RangeSample Float) := Decode.record fields zero

def toJson (s : RangeSample Float) : Value := .record
  [("time_us", .natural s.time), ("rng", .real s.distance)]

end RangeSample

namespace VisionSample

/-- The fields of an external pose. -/
def fields : List (Decode.Field (VisionSample Float)) :=
  [.field "time_us" .required Decode.time fun t s => { s with time := t },
   .field "pos" .required Vec3.decode fun v s => { s with position := v },
   .field "quat" .required Attitude.decode fun q s => { s with attitude := q },
   .field "pos_err" .required Decode.float fun x s => { s with positionError := x },
   .field "ang_err" .required Decode.float fun x s => { s with angleError := x }]

/-- All numbers zero, and no rotation. -/
def zero : VisionSample Float := ⟨0, .zero, .identity, 0.0, 0.0⟩

def decode : Decoder (VisionSample Float) := Decode.record fields zero

def toJson (s : VisionSample Float) : Value := .record
  [("time_us", .natural s.time), ("pos", .ofVec3 s.position), ("quat", .ofAttitude s.attitude),
   ("pos_err", .real s.positionError), ("ang_err", .real s.angleError)]

end VisionSample

namespace FlowSample

/-- The fields of an optical flow. -/
def fields : List (Decode.Field (FlowSample Float)) :=
  [.field "time_us" .required Decode.time fun t s => { s with time := t },
   .field "flow_rad_xy_comp" .required Vec2.decode fun v s => { s with flow := v },
   .field "gyro_xyz" .required Vec3.decode fun v s => { s with gyro := v },
   .field "dt" .required Decode.float fun x s => { s with interval := x },
   .field "quality" .required Decode.octet fun q s => { s with quality := q }]

/-- All numbers zero. -/
def zero : FlowSample Float := ⟨0, .zero, .zero, 0.0, 0⟩

def decode : Decoder (FlowSample Float) := Decode.record fields zero

def toJson (s : FlowSample Float) : Value := .record
  [("time_us", .natural s.time), ("flow_rad_xy_comp", .ofVec2 s.flow),
   ("gyro_xyz", .ofVec3 s.gyro), ("dt", .real s.interval),
   ("quality", .natural s.quality.toNat)]

end FlowSample

namespace MagSample

/-- The fields of a magnetic field. -/
def fields : List (Decode.Field (MagSample Float)) :=
  [.field "time_us" .required Decode.time fun t s => { s with time := t },
   .field "mag" .required Vec3.decode fun v s => { s with field := v }]

/-- All numbers zero. -/
def zero : MagSample Float := ⟨0, .zero⟩

def decode : Decoder (MagSample Float) := Decode.record fields zero

def toJson (s : MagSample Float) : Value := .record
  [("time_us", .natural s.time), ("mag", .ofVec3 s.field)]

end MagSample

namespace AirspeedSample

/-- The fields of an airspeed. -/
def fields : List (Decode.Field (AirspeedSample Float)) :=
  [.field "time_us" .required Decode.time fun t s => { s with time := t },
   .field "true_airspeed" .required Decode.float fun x s => { s with trueAirspeed := x },
   .field "eas2tas" .required Decode.float fun x s => { s with ratio := x }]

/-- All numbers zero. -/
def zero : AirspeedSample Float := ⟨0, 0.0, 0.0⟩

def decode : Decoder (AirspeedSample Float) := Decode.record fields zero

def toJson (s : AirspeedSample Float) : Value := .record
  [("time_us", .natural s.time), ("true_airspeed", .real s.trueAirspeed),
   ("eas2tas", .real s.ratio)]

end AirspeedSample

namespace OutputSample

/-- The fields of an output. -/
def fields : List (Decode.Field (OutputSample Float)) :=
  [.field "time_us" .required Decode.time fun t s => { s with time := t },
   .field "quat_nominal" .required Attitude.decode fun q s => { s with attitude := q },
   .field "vel" .required Vec3.decode fun v s => { s with velocity := v },
   .field "pos" .required Vec3.decode fun v s => { s with position := v }]

/-- All numbers zero, and no rotation. -/
def zero : OutputSample Float := ⟨0, .identity, .zero, .zero⟩

def decode : Decoder (OutputSample Float) := Decode.record fields zero

def toJson (s : OutputSample Float) : Value := .record
  [("time_us", .natural s.time), ("quat_nominal", .ofAttitude s.attitude),
   ("vel", .ofVec3 s.velocity), ("pos", .ofVec3 s.position)]

end OutputSample

namespace NavState

/-- The fields of a navigation state. -/
def fields : List (Decode.Field (NavState Float)) :=
  [.field "quat_nominal" .required Attitude.decode fun q s => { s with attitude := q },
   .field "vel" .required Vec3.decode fun v s => { s with velocity := v },
   .field "pos" .required Vec3.decode fun v s => { s with position := v },
   .field "mag_earth" .required Vec3.decode fun v s => { s with magEarth := v },
   .field "mag_body" .required Vec3.decode fun v s => { s with magBody := v },
   .field "wind_vel" .required Vec2.decode fun v s => { s with wind := v }]

def decode : Decoder (NavState Float) := Decode.record fields .initial

def toJson (s : NavState Float) : Value := .record
  [("quat_nominal", .ofAttitude s.attitude), ("vel", .ofVec3 s.velocity),
   ("pos", .ofVec3 s.position), ("mag_earth", .ofVec3 s.magEarth),
   ("mag_body", .ofVec3 s.magBody), ("wind_vel", .ofVec2 s.wind)]

end NavState

end NavArbiter

/-
# The status in documents

Every field of a status has to be given.  A document may say what no sequence of operations leads
to, such as declination fusion without a magnetometer mode.
-/
import NavArbiter.Source.Json
import NavArbiter.Status

namespace NavArbiter

open Json

namespace Status

/-- The fields of a status. -/
def fields : List (Decode.Field Status) :=
  [.field "tilt_align" .required Decode.bool fun b s => { s with tiltAligned := b },
   .field "yaw_align" .required Decode.bool fun b s => { s with yawAligned := b },
   .field "gps" .required Decode.bool fun b s => { s with gps := b },
   .field "opt_flow" .required Decode.bool fun b s => { s with flow := b },
   .field "ev_pos" .required Decode.bool fun b s => { s with visionPosition := b },
   .field "in_air" .required Decode.bool fun b s => { s with inAir := b },
   .field "wind" .required Decode.bool fun b s => { s with windValid := b },
   .field "height" .required HeightSource.decode fun h s => { s with height := h },
   .field "yaw" .required YawSource.decode fun y s => { s with yaw := y },
   .field "mag_dec" .required Decode.bool fun b s => { s with declination := b }]

def decode : Decoder Status := Decode.record fields .initial

def toJson (s : Status) : Value := .record
  [("tilt_align", .bool s.tiltAligned), ("yaw_align", .bool s.yawAligned), ("gps", .bool s.gps),
   ("opt_flow", .bool s.flow), ("ev_pos", .bool s.visionPosition), ("in_air", .bool s.inAir),
   ("wind", .bool s.windValid), ("height", s.height.toJson), ("yaw", s.yaw.toJson),
   ("mag_dec", .bool s.declination)]

end Status

end NavArbiter

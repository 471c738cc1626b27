/-
# Events in documents

An event without details is its name; one with details is a record with the name for its only key.
-/
import NavArbiter.Event
import NavArbiter.Source.Json

namespace NavArbiter

open Json

namespace Event

/-- An event with details. -/
def detailed (name : String) (details : List (String × Value)) : Value :=
  .record [(name, .record details)]

def toJson : Event Float → Value
  | .tiltAligned b => detailed "TiltAligned" [("yaw_aligned", .bool b)]
  | .visionPositionStarted => .text "VisionPositionStarted"
  | .visionPositionResetFailed => .text "VisionPositionResetFailed"
  | .visionYawStarted x => detailed "VisionYawStarted" [("yaw_change", .real x)]
  | .flowStarted => .text "FlowStarted"
  | .flowDisabled => .text "FlowDisabled"
  | .flowLost a => detailed "FlowLost" [("anchor", .ofVec2 a)]
  | .gpsStarted => .text "GpsStarted"
  | .gpsActivationFailed => .text "GpsActivationFailed"
  | .gpsDisabled => .text "GpsDisabled"
  | .gpsLost a => detailed "GpsLost" [("anchor", .ofVec2 a)]
  | .gpsResetToMeasurement => .text "GpsResetToMeasurement"
  | .gpsResetFailed => .text "GpsResetFailed"
  | .inertialFaultSuspected => .text "InertialFaultSuspected"
  | .heightReset s t => detailed "HeightReset" [("from", s.toJson), ("to", t.toJson)]
  | .heightResetDenied s => detailed "HeightResetDenied" [("source", s.toJson)]
  | .heightResetFailed s t => detailed "HeightResetFailed" [("from", s.toJson), ("to", t.toJson)]
  | .heightSourceSelected s => detailed "HeightSourceSelected" [("source", s.toJson)]
  | .magModeChanged s t => detailed "MagModeChanged" [("from", s.toJson), ("to", t.toJson)]
  | .declinationFusion b => detailed "DeclinationFusion" [("enabled", .bool b)]
  | .windValidity b => detailed "WindValidity" [("valid", .bool b)]

end Event

end NavArbiter

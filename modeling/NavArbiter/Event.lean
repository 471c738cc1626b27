/-
# Events

What an arbitration cycle decided.  Events are the journal of the status: each change of a source
in use is announced by one.
-/
import NavArbiter.Geometry.Vector
import NavArbiter.Source

namespace NavArbiter

/-- A decision of the arbitration. -/
inductive Event (α : Type) where
  | tiltAligned (yawAligned : Bool)
  | visionPositionStarted
  | visionPositionResetFailed
  | visionYawStarted (yawChange : α)
  | flowStarted
  | flowDisabled
  | flowLost (anchor : Vec2 α)
  | gpsStarted
  | gpsActivationFailed
  | gpsDisabled
  | gpsLost (anchor : Vec2 α)
  | gpsResetToMeasurement
  | gpsResetFailed
  | inertialFaultSuspected
  | heightReset (source target : HeightSource)
  | heightResetDenied (source : HeightSource)
  | heightResetFailed (source target : HeightSource)
  | heightSourceSelected (source : HeightSource)
  | magModeChanged (source target : MagMode)
  | declinationFusion (enabled : Bool)
  | windValidity (valid : Bool)

/-- The name under which an event is counted. -/
def Event.name {α : Type} : Event α → String
  | .tiltAligned _ => "tilt_aligned"
  | .visionPositionStarted => "vision_position_started"
  | .visionPositionResetFailed => "vision_position_reset_failed"
  | .visionYawStarted _ => "vision_yaw_started"
  | .flowStarted => "flow_started"
  | .flowDisabled => "flow_disabled"
  | .flowLost _ => "flow_lost"
  | .gpsStarted => "gps_started"
  | .gpsActivationFailed => "gps_activation_failed"
  | .gpsDisabled => "gps_disabled"
  | .gpsLost _ => "gps_lost"
  | .gpsResetToMeasurement => "gps_reset_to_measurement"
  | .gpsResetFailed => "gps_reset_failed"
  | .inertialFaultSuspected => "inertial_fault_suspected"
  | .heightReset _ _ => "height_reset"
  | .heightResetDenied _ => "height_reset_denied"
  | .heightResetFailed _ _ => "height_reset_failed"
  | .heightSourceSelected _ => "height_source_selected"
  | .magModeChanged _ _ => "mag_mode_changed"
  | .declinationFusion _ => "declination_fusion"
  | .windValidity _ => "wind_validity"

end NavArbiter

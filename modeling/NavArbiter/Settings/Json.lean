/-
# Settings in documents

A settings document may leave out any field, also of the two groups inside it; what it leaves out
keeps its default.  `Settings.read` accepts a document only if the settings it gives are in range.
-/
import NavArbiter.Decimal.Shortest
import NavArbiter.Settings
import NavArbiter.Source.Json

namespace NavArbiter

open Json

/-- Why settings cannot be had. -/
inductive SettingsFailure where
  | fault (fault : Fault)
  | outOfRange (error : SettingError Float)

namespace SettingError

/-- The wording of an error. -/
def message : SettingError Float → String
  | .notPositive name value =>
      "Invalid parameter " ++ name ++ ": must be positive and finite, got " ++ Decimal.plain value
  | .negative name value =>
      "Invalid parameter " ++ name ++ ": must be non-negative, got " ++ Decimal.plain value
  | .zero name => "Invalid parameter " ++ name ++ ": must be non-zero"

end SettingError

namespace Allowed

/-- The fields of a record of allowed sources. -/
def fields : List (Decode.Field Allowed) :=
  [.field "use_gps" .defaulted Decode.bool fun b a => { a with gps := b },
   .field "use_optical_flow" .defaulted Decode.bool fun b a => { a with flow := b },
   .field "use_ev_pos" .defaulted Decode.bool fun b a => { a with visionPosition := b },
   .field "use_ev_yaw" .defaulted Decode.bool fun b a => { a with visionYaw := b }]

/-- Decodes allowed sources. -/
def decode : Decoder Allowed := Decode.record fields {}

def toJson (a : Allowed) : Value := .record
  [("use_gps", .bool a.gps), ("use_optical_flow", .bool a.flow),
   ("use_ev_pos", .bool a.visionPosition), ("use_ev_yaw", .bool a.visionYaw)]

end Allowed

namespace Timeouts

/-- The fields of a record of timeouts. -/
def fields : List (Decode.Field (Timeouts Float)) :=
  [.field "gps_fail_cooldown_us" .defaulted Decode.time fun t x => { x with gpsFailCooldown := t },
   .field "gps_fusion_timeout_us" .defaulted Decode.time fun t x =>
     { x with gpsFusionTimeout := t },
   .field "gps_data_max_age_us" .defaulted Decode.time fun t x => { x with gpsDataMaxAge := t },
   .field "flow_fusion_timeout_us" .defaulted Decode.time fun t x =>
     { x with flowFusionTimeout := t },
   .field "flow_data_max_age_us" .defaulted Decode.time fun t x => { x with flowDataMaxAge := t },
   .field "hgt_fusion_timeout_us" .defaulted Decode.time fun t x =>
     { x with heightFusionTimeout := t },
   .field "bad_vert_accel_memory_us" .defaulted Decode.time fun t x =>
     { x with inertialFaultMemory := t },
   .field "airspeed_timeout_us" .defaulted Decode.time fun t x => { x with airspeedTimeout := t },
   .field "tilt_align_var" .defaulted Decode.float fun v x => { x with tiltAlignVariance := v },
   .field "mag_3d_min_climb" .defaulted Decode.float fun v x => { x with threeAxisMinClimb := v }]

/-- Decodes timeouts. -/
def decode : Decoder (Timeouts Float) := Decode.record fields .default

def toJson (t : Timeouts Float) : Value := .record
  [("gps_fail_cooldown_us", .natural t.gpsFailCooldown),
   ("gps_fusion_timeout_us", .natural t.gpsFusionTimeout),
   ("gps_data_max_age_us", .natural t.gpsDataMaxAge),
   ("flow_fusion_timeout_us", .natural t.flowFusionTimeout),
   ("flow_data_max_age_us", .natural t.flowDataMaxAge),
   ("hgt_fusion_timeout_us", .natural t.heightFusionTimeout),
   ("bad_vert_accel_memory_us", .natural t.inertialFaultMemory),
   ("airspeed_timeout_us", .natural t.airspeedTimeout),
   ("tilt_align_var", .real t.tiltAlignVariance),
   ("mag_3d_min_climb", .real t.threeAxisMinClimb)]

end Timeouts

namespace Settings

/-- The fields of a settings document. -/
def fields : List (Decode.Field (Settings Float)) :=
  [.field "fusion_mode" .defaulted Allowed.decode fun a s => { s with allowed := a },
   .field "vdist_sensor_type" .defaulted HeightSource.decode fun h s =>
     { s with preferredHeight := h },
   .field "mag_fusion_type" .defaulted MagPolicy.decode fun p s => { s with magPolicy := p },
   .field "fuse_declination" .defaulted Decode.bool fun b s => { s with fuseDeclination := b },
   .field "hgt_reset_lim" .defaulted Decode.float fun v s => { s with heightResetLimit := v },
   .field "req_vacc" .defaulted Decode.float fun v s =>
     { s with requiredVerticalAccuracy := v },
   .field "baro_noise" .defaulted Decode.float fun v s => { s with baroNoise := v },
   .field "baro_innov_gate" .defaulted Decode.float fun v s => { s with baroGate := v },
   .field "rng_gnd_clearance" .defaulted Decode.float fun v s => { s with groundClearance := v },
   .field "flow_noise" .defaulted Decode.float fun v s => { s with flowNoise := v },
   .field "flow_noise_qual_min" .defaulted Decode.float fun v s => { s with flowNoiseWorst := v },
   .field "flow_qual_min" .defaulted Decode.octet fun q s => { s with flowMinQuality := q },
   .field "baro_max_interval_us" .defaulted Decode.time fun t s => { s with baroMaxInterval := t },
   .field "gps_max_interval_us" .defaulted Decode.time fun t s => { s with gpsMaxInterval := t },
   .field "rng_max_interval_us" .defaulted Decode.time fun t s => { s with rangeMaxInterval := t },
   .field "ev_max_interval_us" .defaulted Decode.time fun t s => { s with visionMaxInterval := t },
   .field "timeouts" .defaulted Timeouts.decode fun t s => { s with timeouts := t }]

/-- Decodes settings, whether in range or not. -/
def decode : Decoder (Settings Float) := Decode.record fields .default

/-- The settings of a document, if it can be read and they are in range. -/
def read (os : Octets) : Except SettingsFailure (Settings Float) :=
  match (Document.read os).decode decode with
  | .error fault => .error (.fault fault)
  | .ok s =>
      match s.check with
      | .error e => .error (.outOfRange e)
      | .ok () => .ok s

def toJson (s : Settings Float) : Value := .record
  [("fusion_mode", s.allowed.toJson),
   ("vdist_sensor_type", s.preferredHeight.toJson),
   ("mag_fusion_type", s.magPolicy.toJson),
   ("fuse_declination", .bool s.fuseDeclination),
   ("hgt_reset_lim", .real s.heightResetLimit),
   ("req_vacc", .real s.requiredVerticalAccuracy),
   ("baro_noise", .real s.baroNoise),
   ("baro_innov_gate", .real s.baroGate),
   ("rng_gnd_clearance", .real s.groundClearance),
   ("flow_noise", .real s.flowNoise),
   ("flow_noise_qual_min", .real s.flowNoiseWorst),
   ("flow_qual_min", .natural s.flowMinQuality.toNat),
   ("baro_max_interval_us", .natural s.baroMaxInterval),
   ("gps_max_interval_us", .natural s.gpsMaxInterval),
   ("rng_max_interval_us", .natural s.rangeMaxInterval),
   ("ev_max_interval_us", .natural s.visionMaxInterval),
   ("timeouts", s.timeouts.toJson)]

end Settings

end NavArbiter

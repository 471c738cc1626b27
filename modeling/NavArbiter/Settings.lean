/-
# Settings

What the operator may choose: the sources allowed, the limits and noises of the height and flow
procedures, the sample intervals of the sensors and the timeouts.  `Settings.check` names the
first setting that is out of range, in a fixed order.
-/
import NavArbiter.Scalar
import NavArbiter.Source
import NavArbiter.Time

namespace NavArbiter

/-- Which sources may be used at all. -/
structure Allowed where
  gps : Bool := true
  flow : Bool := false
  visionPosition : Bool := false
  visionYaw : Bool := false
  deriving DecidableEq, Repr

/-- Ages and limits that trigger the controllers. -/
structure Timeouts (α : Type) where
  gpsFailCooldown : Nat
  gpsFusionTimeout : Nat
  gpsDataMaxAge : Nat
  flowFusionTimeout : Nat
  flowDataMaxAge : Nat
  heightFusionTimeout : Nat
  inertialFaultMemory : Nat
  airspeedTimeout : Nat
  /-- Sum of the roll and pitch error variances below which tilt is aligned. -/
  tiltAlignVariance : α
  /-- Climb above the ground before three-axis fusion. -/
  threeAxisMinClimb : α

/-- All settings of the arbitration. -/
structure Settings (α : Type) where
  allowed : Allowed
  /-- The height source to prefer while it is sound. -/
  preferredHeight : HeightSource
  magPolicy : MagPolicy
  /-- Fuse declination also while satellite navigation observes yaw. -/
  fuseDeclination : Bool
  /-- Standard deviation of vertical position above which a stalled height source is reset. -/
  heightResetLimit : α
  /-- Vertical accuracy that satellite height needs to be trusted. -/
  requiredVerticalAccuracy : α
  baroNoise : α
  baroGate : α
  groundClearance : α
  /-- Flow noise at the best quality. -/
  flowNoise : α
  /-- Flow noise at the least quality accepted. -/
  flowNoiseWorst : α
  flowMinQuality : UInt8
  baroMaxInterval : Nat
  gpsMaxInterval : Nat
  rangeMaxInterval : Nat
  visionMaxInterval : Nat
  timeouts : Timeouts α

/-- A setting that is out of range, by its name in documents. -/
inductive SettingError (α : Type) where
  | notPositive (name : String) (value : α)
  | negative (name : String) (value : α)
  | zero (name : String)

variable {α : Type} [Scalar α]

namespace Timeouts

/-- The timeouts in force unless told otherwise. -/
def default : Timeouts α where
  gpsFailCooldown := 5000000
  gpsFusionTimeout := 10000000
  gpsDataMaxAge := 500000
  flowFusionTimeout := 5000000
  flowDataMaxAge := 500000
  heightFusionTimeout := 5000000
  inertialFaultMemory := 10000000
  airspeedTimeout := 10000000
  tiltAlignVariance := 0.05235 * 0.05235
  threeAxisMinClimb := 1.5

end Timeouts

namespace Settings

/-- The settings in force unless told otherwise. -/
def default : Settings α where
  allowed := {}
  preferredHeight := .baro
  magPolicy := .auto
  fuseDeclination := true
  heightResetLimit := 5.0
  requiredVerticalAccuracy := 8.0
  baroNoise := 2.0
  baroGate := 5.0
  groundClearance := 0.1
  flowNoise := 0.15
  flowNoiseWorst := 0.5
  flowMinQuality := 1
  baroMaxInterval := 200000
  gpsMaxInterval := 500000
  rangeMaxInterval := 200000
  visionMaxInterval := 200000
  timeouts := .default

/-- Refuses a number that is not finite and positive. -/
def requirePositive (name : String) (value : α) : Except (SettingError α) Unit :=
  if Scalar.isFinite value ∧ 0.0 < value then .ok () else .error (.notPositive name value)

/-- Refuses a number that is not finite and at least zero. -/
def requireNonNegative (name : String) (value : α) : Except (SettingError α) Unit :=
  if Scalar.isFinite value ∧ 0.0 ≤ value then .ok () else .error (.negative name value)

/-- Refuses a zero interval. -/
def requireNonZero (name : String) (value : Nat) : Except (SettingError α) Unit :=
  if 0 < value then .ok () else .error (.zero name)

/-- Succeeds if all settings are in range, and else names the first that is not. -/
def check (s : Settings α) : Except (SettingError α) Unit := do
  requirePositive "hgt_reset_lim" s.heightResetLimit
  requirePositive "req_vacc" s.requiredVerticalAccuracy
  requirePositive "baro_noise" s.baroNoise
  requirePositive "baro_innov_gate" s.baroGate
  requirePositive "flow_noise" s.flowNoise
  requirePositive "flow_noise_qual_min" s.flowNoiseWorst
  requirePositive "timeouts.tilt_align_var" s.timeouts.tiltAlignVariance
  requireNonNegative "rng_gnd_clearance" s.groundClearance
  requireNonZero "baro_max_interval_us" s.baroMaxInterval
  requireNonZero "gps_max_interval_us" s.gpsMaxInterval
  requireNonZero "rng_max_interval_us" s.rangeMaxInterval
  requireNonZero "ev_max_interval_us" s.visionMaxInterval

/-- The variance of vertical position above which a stalled height source is reset. -/
def heightResetVariance (s : Settings α) : α := s.heightResetLimit * s.heightResetLimit

/-- The longest interval between samples of a height source. -/
def maxInterval (s : Settings α) : HeightSource → Nat
  | .baro => s.baroMaxInterval
  | .gps => s.gpsMaxInterval
  | .range => s.rangeMaxInterval
  | .vision => s.visionMaxInterval

/-- How old a sample of a height source may be: two of its intervals. -/
def heightMaxAge (s : Settings α) (source : HeightSource) : Nat :=
  Time.twice (s.maxInterval source)

end Settings

end NavArbiter

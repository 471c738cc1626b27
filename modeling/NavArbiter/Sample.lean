/-
# Samples

One measurement of each sensor, one entry of the output history, and the navigation state.
Positions and velocities are north, east, down; heights are up.
-/
import NavArbiter.Geometry.Attitude
import NavArbiter.Time

namespace NavArbiter

variable {α : Type}

/-- A satellite fix with its accuracies. -/
structure GpsSample (α : Type) where
  time : Time
  position : Vec2 α
  height : α
  velocity : Vec3 α
  horizontalAccuracy : α
  verticalAccuracy : α
  speedAccuracy : α

/-- A barometric height. -/
structure BaroSample (α : Type) where
  time : Time
  height : α

/-- A distance along the body's down axis. -/
structure RangeSample (α : Type) where
  time : Time
  distance : α

/-- A pose seen by an external camera system, with its errors. -/
structure VisionSample (α : Type) where
  time : Time
  position : Vec3 α
  attitude : Attitude α
  positionError : α
  angleError : α

/-- Optical flow, compensated for rotation and integrated over `interval`. -/
structure FlowSample (α : Type) where
  time : Time
  flow : Vec2 α
  gyro : Vec3 α
  interval : α
  quality : UInt8

/-- The magnetic field in the body frame. -/
structure MagSample (α : Type) where
  time : Time
  field : Vec3 α

/-- A true airspeed, with its ratio to the equivalent one. -/
structure AirspeedSample (α : Type) where
  time : Time
  trueAirspeed : α
  ratio : α

/-- The predicted output at one time. -/
structure OutputSample (α : Type) where
  time : Time
  attitude : Attitude α
  velocity : Vec3 α
  position : Vec3 α

instance : Timed (GpsSample α) := ⟨GpsSample.time⟩

instance : Timed (BaroSample α) := ⟨BaroSample.time⟩

instance : Timed (RangeSample α) := ⟨RangeSample.time⟩

instance : Timed (VisionSample α) := ⟨VisionSample.time⟩

instance : Timed (FlowSample α) := ⟨FlowSample.time⟩

instance : Timed (MagSample α) := ⟨MagSample.time⟩

instance : Timed (AirspeedSample α) := ⟨AirspeedSample.time⟩

instance : Timed (OutputSample α) := ⟨OutputSample.time⟩

/-- The estimated navigation state. -/
structure NavState (α : Type) where
  attitude : Attitude α
  velocity : Vec3 α
  position : Vec3 α
  magEarth : Vec3 α
  magBody : Vec3 α
  wind : Vec2 α

/-- At rest at the origin, with the body axes along the earth axes. -/
def NavState.initial [Scalar α] : NavState α where
  attitude := .identity
  velocity := .zero
  position := .zero
  magEarth := .zero
  magBody := .zero
  wind := .zero

end NavArbiter

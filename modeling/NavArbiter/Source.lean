/-
# Sources of aiding

The sensors that may correct the estimate, and the choices among them: which sensor supplies
height, which family observes yaw, and how the magnetometer takes part.  Choices that exclude
each other are one inductive type, so two height sources or two yaw observers at a time cannot
be written down.
-/

namespace NavArbiter

/-- A sensor whose fusion and faults are recorded. -/
inductive Sensor where
  | baro
  | gps
  | range
  | vision
  | flow
  | mag
  | airspeed
  deriving DecidableEq, Repr

namespace Sensor

/-- All sensors, in the order in which reports list them. -/
def all : List Sensor := [baro, gps, range, vision, flow, mag, airspeed]

/-- Place of a sensor in `Sensor.all`. -/
def index : Sensor → Fin 7
  | baro => 0
  | gps => 1
  | range => 2
  | vision => 3
  | flow => 4
  | mag => 5
  | airspeed => 6

theorem index_injective {s t : Sensor} (h : s.index = t.index) : s = t := by
  cases s <;> cases t <;> first | rfl | cases h

/-- Name of a sensor in reports. -/
def name : Sensor → String
  | baro => "Baro"
  | gps => "GPS"
  | range => "Range"
  | vision => "Vision"
  | flow => "Flow"
  | mag => "Mag"
  | airspeed => "Airspeed"

end Sensor

/-- The sensor that supplies height. -/
inductive HeightSource where
  | baro
  | gps
  | range
  | vision
  deriving DecidableEq, Repr

namespace HeightSource

/-- All height sources, in their order of declaration. -/
def all : List HeightSource := [baro, gps, range, vision]

/-- The sensor behind a height source. -/
def sensor : HeightSource → Sensor
  | baro => .baro
  | gps => .gps
  | range => .range
  | vision => .vision

/-- Short name of a height source in messages. -/
def label : HeightSource → String
  | baro => "baro"
  | gps => "GPS"
  | range => "rng"
  | vision => "ev"

end HeightSource

/-- The sensor that a horizontal position or velocity is reset to. -/
inductive HorizontalSource where
  | gps
  | vision
  deriving DecidableEq, Repr

/-- How the magnetometer is fused while it observes yaw. -/
inductive MagMode where
  | off
  | heading
  | threeAxis
  deriving DecidableEq, Repr

/-- The sensor family that observes yaw. -/
inductive YawSource where
  | magnetometer (mode : MagMode)
  | vision
  deriving DecidableEq, Repr

/-- Which magnetometer mode is wanted: heading on the ground and three axes once clear of it,
or one mode throughout. -/
inductive MagPolicy where
  | auto
  | heading
  | threeAxis
  | off
  deriving DecidableEq, Repr

end NavArbiter

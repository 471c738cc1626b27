/-
# The health report

One line for the log: for each sensor its name, whether it is sound, and how many seconds ago it
was fused, to one place.
-/
import NavArbiter.Decimal.Rounded
import NavArbiter.Health
import NavArbiter.Scalar

namespace NavArbiter

/-- Microseconds as seconds. -/
def Time.seconds {α : Type} [Scalar α] (t : Nat) : α := Scalar.ofNat t * 1e-6

namespace SensorHealth

/-- How long ago the sensor was fused, in words. -/
def fusedText (h : SensorHealth) (now : Time) : String :=
  match h.lastFusion with
  | some _ => Decimal.fixed 1 (Time.seconds (h.sinceFusion now)) ++ "s"
  | none => "never"

end SensorHealth

namespace Health

/-- The part of the report on one sensor. -/
def sensorReport (h : Health) (now : Time) (s : Sensor) : String :=
  let r := h.sensor s
  s.name ++ (if r.faulty then " ✗ (" else " ✓ (") ++ r.fusedText now ++ ")"

/-- The report on all sensors. -/
def report (h : Health) (now : Time) : String :=
  "Health: " ++ " | ".intercalate (Sensor.all.map (h.sensorReport now))

end Health

end NavArbiter

/-
# Fusion clocks and fault marks

For each sensor the record keeps when it was last fused, when a reset to it last failed, and
whether it carries a fault mark.  Further clocks show when position, velocity, height and terrain
were last corrected, and when an inertial fault was last suspected.  What never happened is
infinitely old.
-/
import NavArbiter.Source
import NavArbiter.Time

namespace NavArbiter

/-- Fusion bookkeeping of one sensor. -/
structure SensorHealth where
  lastFusion : Option Time := none
  lastFailure : Option Time := none
  faulty : Bool := false
  deriving DecidableEq, Repr

namespace SensorHealth

/-- Age of the last fusion. -/
def sinceFusion (h : SensorHealth) (now : Time) : Nat := Time.ageOf now h.lastFusion

/-- Age of the last failure. -/
def sinceFailure (h : SensorHealth) (now : Time) : Nat := Time.ageOf now h.lastFailure

/-- More than `cooldown` has passed since the last failure. -/
def canRetry (h : SensorHealth) (now : Time) (cooldown : Nat) : Bool :=
  decide (cooldown < h.sinceFailure now)

end SensorHealth

/-- The fusions and conditions with a clock of their own. -/
inductive FusionClock where
  | position
  | velocity
  | height
  | terrain
  | inertialFault
  deriving DecidableEq, Repr

/-- What is known about the sensors and the fusions. -/
structure Health where
  sensors : Vector SensorHealth 7 := Vector.replicate 7 {}
  lastPosition : Option Time := none
  lastVelocity : Option Time := none
  lastHeight : Option Time := none
  lastTerrain : Option Time := none
  lastInertialFault : Option Time := none
  deriving DecidableEq

namespace Health

/-- Nothing was ever fused and nothing failed. -/
def initial : Health := {}

/-- The record of a sensor. -/
def sensor (h : Health) (s : Sensor) : SensorHealth := h.sensors[s.index]

/-- The health with the record of a sensor rewritten. -/
def modifySensor (h : Health) (s : Sensor) (f : SensorHealth → SensorHealth) : Health :=
  { h with sensors := h.sensors.set s.index (f (h.sensor s)) }

/-- A sensor was fused. -/
def recordFusion (h : Health) (s : Sensor) (now : Time) : Health :=
  h.modifySensor s fun r => { r with lastFusion := some now }

/-- A reset to a sensor failed. -/
def recordFailure (h : Health) (s : Sensor) (now : Time) : Health :=
  h.modifySensor s fun r => { r with lastFailure := some now }

/-- A sensor is marked faulty or sound. -/
def setFaulty (h : Health) (s : Sensor) (faulty : Bool) : Health :=
  h.modifySensor s fun r => { r with faulty := faulty }

/-- The sensor carries a fault mark. -/
def isFaulty (h : Health) (s : Sensor) : Bool := (h.sensor s).faulty

/-- The time a clock shows, if it was ever set. -/
def clock (h : Health) : FusionClock → Option Time
  | .position => h.lastPosition
  | .velocity => h.lastVelocity
  | .height => h.lastHeight
  | .terrain => h.lastTerrain
  | .inertialFault => h.lastInertialFault

/-- The health with a clock set or cleared. -/
def setClock (h : Health) (c : FusionClock) (t : Option Time) : Health :=
  match c with
  | .position => { h with lastPosition := t }
  | .velocity => { h with lastVelocity := t }
  | .height => { h with lastHeight := t }
  | .terrain => { h with lastTerrain := t }
  | .inertialFault => { h with lastInertialFault := t }

/-- Age of what a clock shows. -/
def since (h : Health) (c : FusionClock) (now : Time) : Nat := Time.ageOf now (h.clock c)

/-- The horizontal position and velocity clocks start anew. -/
def restartHorizontal (h : Health) (now : Time) : Health :=
  { h with lastPosition := some now, lastVelocity := some now }

/-- The sensors that carry a fault mark. -/
def faultySensors (h : Health) : List Sensor := Sensor.all.filter h.isFaulty

theorem sensor_modifySensor (h : Health) (s t : Sensor) (f : SensorHealth → SensorHealth) :
    (h.modifySensor s f).sensor t = if s = t then f (h.sensor s) else h.sensor t := by
  simp only [sensor, modifySensor]
  by_cases hst : s = t
  · subst hst; simp
  · rw [if_neg hst]
    simp only [Fin.getElem_fin]
    rw [Vector.getElem_set_ne]
    intro hv
    exact hst (Sensor.index_injective (Fin.ext hv))

end Health

end NavArbiter

/-
# Sensor logs

A log is a list of readings.  Each is one estimator cycle: its time, whether the vehicle was in the
air, and the new samples of the sensors that had any.
-/
import NavArbiter.Sample.Json
import NavArbiter.Sensors

namespace NavArbiter

open Json

/-- One estimator cycle of a log. -/
structure Reading (α : Type) where
  time : Time
  inAir : Bool
  measured : Measurements α

/-- A sensor log. -/
structure Log (α : Type) where
  readings : List (Reading α)

namespace Measurements

variable {α : Type}

/-- No sensor has a new sample. -/
def none : Measurements α := ⟨.none, .none, .none, .none, .none, .none, .none⟩

/-- One if there is a sample. -/
def present {β : Type} (x : Option β) : Nat := if x.isSome then 1 else 0

/-- How many sensors have a new sample. -/
def count (m : Measurements α) : Nat :=
  present m.gps + present m.baro + present m.range + present m.vision + present m.flow
    + present m.mag + present m.airspeed

end Measurements

namespace Reading

/-- A field with the sample of one sensor. -/
def sensorField {β : Type} (name : String) (d : Decoder β)
    (set : Option β → Measurements Float → Measurements Float) :
    Decode.Field (Reading Float) :=
  .field name .optional (Decode.optional d) fun x r => { r with measured := set x r.measured }

/-- The fields of a reading. -/
def fields : List (Decode.Field (Reading Float)) :=
  [.field "time_us" .required Decode.time fun t r => { r with time := t },
   .field "in_air" .defaulted Decode.bool fun b r => { r with inAir := b },
   sensorField "gps" GpsSample.decode fun x m => { m with gps := x },
   sensorField "baro" BaroSample.decode fun x m => { m with baro := x },
   sensorField "range" RangeSample.decode fun x m => { m with range := x },
   sensorField "ext_vision" VisionSample.decode fun x m => { m with vision := x },
   sensorField "flow" FlowSample.decode fun x m => { m with flow := x },
   sensorField "mag" MagSample.decode fun x m => { m with mag := x },
   sensorField "airspeed" AirspeedSample.decode fun x m => { m with airspeed := x }]

/-- Decodes a reading. -/
def decode : Decoder (Reading Float) := Decode.record fields ⟨0, false, .none⟩

end Reading

namespace Log

/-- The fields of a log. -/
def fields : List (Decode.Field (Log Float)) :=
  [.field "readings" .required (Decode.list Reading.decode) fun rs _ => ⟨rs⟩]

/-- Decodes a log. -/
def decode : Decoder (Log Float) := Decode.record fields ⟨[]⟩

/-- The log of a document. -/
def read (os : Octets) : Except Fault (Log Float) := (Document.read os).decode decode

end Log

end NavArbiter

/-
# The health record in documents

Times that are left out or `null` mean that something never happened.
-/
import NavArbiter.Health
import NavArbiter.Json.Decode
import NavArbiter.Json.Value

namespace NavArbiter

open Json

namespace SensorHealth

/-- The fields of a sensor's record. -/
def fields : List (Decode.Field SensorHealth) :=
  [.field "last_fusion_us" .optional (Decode.optional Decode.time) fun t h =>
     { h with lastFusion := t },
   .field "last_failure_us" .optional (Decode.optional Decode.time) fun t h =>
     { h with lastFailure := t },
   .field "faulty" .required Decode.bool fun b h => { h with faulty := b }]

def decode : Decoder SensorHealth := Decode.record fields {}

def toJson (h : SensorHealth) : Value := .record
  [("last_fusion_us", .optional .natural h.lastFusion),
   ("last_failure_us", .optional .natural h.lastFailure), ("faulty", .bool h.faulty)]

end SensorHealth

namespace Health

/-- Decodes the records of all sensors. -/
def decodeSensors : Decoder (Vector SensorHealth 7) := fun n => do
  let hs ← Decode.exactly 7 SensorHealth.decode n
  if h : hs.length = 7 then return ⟨hs.toArray, by simpa using h⟩ else .error .mismatch

/-- The fields of a health record. -/
def fields : List (Decode.Field Health) :=
  [.field "sources" .required decodeSensors fun v h => { h with sensors := v },
   .field "last_pos_fuse_us" .optional (Decode.optional Decode.time) fun t h =>
     { h with lastPosition := t },
   .field "last_vel_fuse_us" .optional (Decode.optional Decode.time) fun t h =>
     { h with lastVelocity := t },
   .field "last_hgt_fuse_us" .optional (Decode.optional Decode.time) fun t h =>
     { h with lastHeight := t },
   .field "last_hagl_fuse_us" .optional (Decode.optional Decode.time) fun t h =>
     { h with lastTerrain := t },
   .field "last_bad_vert_accel_us" .optional (Decode.optional Decode.time) fun t h =>
     { h with lastInertialFault := t }]

def decode : Decoder Health := Decode.record fields .initial

def toJson (h : Health) : Value := .record
  [("sources", .list (h.sensors.toList.map SensorHealth.toJson)),
   ("last_pos_fuse_us", .optional .natural h.lastPosition),
   ("last_vel_fuse_us", .optional .natural h.lastVelocity),
   ("last_hgt_fuse_us", .optional .natural h.lastHeight),
   ("last_hagl_fuse_us", .optional .natural h.lastTerrain),
   ("last_bad_vert_accel_us", .optional .natural h.lastInertialFault)]

end Health

end NavArbiter

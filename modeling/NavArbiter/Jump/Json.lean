/-
# Jumps in documents

A jump is a record with its kind for the only key and the change for the value.
-/
import NavArbiter.Geometry.Json
import NavArbiter.Json.Value
import NavArbiter.Jump

namespace NavArbiter

open Json

namespace Jump

/-- Decodes the change of a jump: a record with the one field `delta`. -/
def decodeDelta {β : Type} (d : Decoder β) (start : β) : Decoder β :=
  Decode.record [.field "delta" .required d fun x _ => x] start

/-- The variant of a kind of jump. -/
def variant {β : Type} (name : String) (d : Decoder β) (start : β) (make : β → Jump Float) :
    Decode.Variant (Jump Float) :=
  .holding name fun n => (decodeDelta d start n).map make

/-- Decodes a jump. -/
def decode : Decoder (Jump Float) := Decode.choice
  [variant "Attitude" Attitude.decode .identity .attitude,
   variant "HorizontalPosition" Vec2.decode .zero .horizontalPosition,
   variant "HorizontalVelocity" Vec2.decode .zero .horizontalVelocity,
   variant "VerticalPosition" Decode.float 0.0 .verticalPosition,
   variant "VerticalVelocity" Decode.float 0.0 .verticalVelocity]

/-- A record with one key that holds the change. -/
def keyed (name : String) (delta : Value) : Value :=
  .record [(name, .record [("delta", delta)])]

def toJson : Jump Float → Value
  | .attitude r => keyed "Attitude" (.ofAttitude r)
  | .horizontalPosition d => keyed "HorizontalPosition" (.ofVec2 d)
  | .horizontalVelocity d => keyed "HorizontalVelocity" (.ofVec2 d)
  | .verticalPosition d => keyed "VerticalPosition" (.real d)
  | .verticalVelocity d => keyed "VerticalVelocity" (.real d)

end Jump

namespace JumpCounters

def toJson (c : JumpCounters) : Value := .record
  [("quat", .natural c.attitude.toNat),
   ("pos_ne", .natural c.horizontalPosition.toNat),
   ("vel_ne", .natural c.horizontalVelocity.toNat),
   ("pos_d", .natural c.verticalPosition.toNat),
   ("vel_d", .natural c.verticalVelocity.toNat)]

end JumpCounters

end NavArbiter

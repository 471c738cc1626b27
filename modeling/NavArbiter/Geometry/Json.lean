/-
# Vectors and attitudes in documents

A vector is the list of its components, an attitude the list of vector part and scalar part.  The
number of components is exact.
-/
import NavArbiter.Geometry.Attitude
import NavArbiter.Json.Decode

namespace NavArbiter

open Json

/-- Decodes a horizontal vector. -/
def Vec2.decode : Decoder (Vec2 Float) := fun n => do
  match ← Decode.vector 2 n with
  | [x, y] => return ⟨x, y⟩
  | _ => .error .mismatch

/-- Decodes a vector. -/
def Vec3.decode : Decoder (Vec3 Float) := fun n => do
  match ← Decode.vector 3 n with
  | [x, y, z] => return ⟨x, y, z⟩
  | _ => .error .mismatch

/-- Decodes an attitude as it stands. -/
def Attitude.decode : Decoder (Attitude Float) := fun n => do
  match ← Decode.vector 4 n with
  | [i, j, k, w] => return ⟨i, j, k, w⟩
  | _ => .error .mismatch

end NavArbiter

/-
# Attitudes

An attitude is a quaternion that turns body vectors into earth vectors.  It is taken as it is
given: no operation rescales it to unit length, and the inverse is the conjugate.  The rotation
matrix is that of the quaternion as it stands, and the angles are read off the matrix.

`Attitude.ofAngles` and `Attitude.angles` use roll, pitch and yaw, turned in this order about
the fixed axes.
-/
import NavArbiter.Geometry.Vector

namespace NavArbiter

/-- A quaternion with vector part `(i, j, k)` and scalar part `w`. -/
structure Attitude (α : Type) where
  i : α
  j : α
  k : α
  w : α
  deriving DecidableEq

/-- A rotation matrix by rows. -/
structure Rotation (α : Type) where
  r00 : α
  r01 : α
  r02 : α
  r10 : α
  r11 : α
  r12 : α
  r20 : α
  r21 : α
  r22 : α

/-- Roll, pitch and yaw. -/
structure Angles (α : Type) where
  roll : α
  pitch : α
  yaw : α

variable {α : Type} [Scalar α]

namespace Rotation

/-- The rotated vector. -/
def apply (r : Rotation α) (v : Vec3 α) : Vec3 α :=
  ⟨r.r00 * v.x + r.r01 * v.y + r.r02 * v.z,
   r.r10 * v.x + r.r11 * v.y + r.r12 * v.z,
   r.r20 * v.x + r.r21 * v.y + r.r22 * v.z⟩

/-- The angles of a rotation.  At the two poles, where roll and yaw turn about the same axis,
the yaw is zero. -/
def angles (r : Rotation α) : Angles α :=
  if Scalar.abs r.r20 < 1.0 then
    let pitch := -Scalar.asin r.r20
    let c := Scalar.cos pitch
    ⟨Scalar.atan2 (r.r21 / c) (r.r22 / c), pitch, Scalar.atan2 (r.r10 / c) (r.r00 / c)⟩
  else if r.r20 ≤ -(1.0 : α) then
    ⟨Scalar.atan2 r.r01 r.r02, Scalar.pi / 2.0, 0.0⟩
  else
    ⟨-Scalar.atan2 r.r01 (-r.r02), -(Scalar.pi / 2.0), 0.0⟩

end Rotation

namespace Attitude

/-- The attitude whose body axes are the earth axes. -/
def identity : Attitude α := ⟨0.0, 0.0, 0.0, 1.0⟩

/-- The vector part. -/
def vector {α : Type} (q : Attitude α) : Vec3 α := ⟨q.i, q.j, q.k⟩

/-- The product of two quaternions: first the right rotation, then the left one. -/
def mul (p q : Attitude α) : Attitude α where
  i := p.w * q.i + p.i * q.w + p.j * q.k - p.k * q.j
  j := p.w * q.j - p.i * q.k + p.j * q.w + p.k * q.i
  k := p.w * q.k + p.i * q.j - p.j * q.i + p.k * q.w
  w := p.w * q.w - p.i * q.i - p.j * q.j - p.k * q.k

/-- The opposite rotation. -/
def inverse (q : Attitude α) : Attitude α := ⟨-q.i, -q.j, -q.k, q.w⟩

/-- The rotated vector. -/
def apply (q : Attitude α) (v : Vec3 α) : Vec3 α :=
  let t := (q.vector.cross v).scale 2.0
  ((t.scale q.w).add (q.vector.cross t)).add v

/-- The rotation matrix. -/
def rotation (q : Attitude α) : Rotation α :=
  let ww := q.w * q.w
  let ii := q.i * q.i
  let jj := q.j * q.j
  let kk := q.k * q.k
  let ij := q.i * q.j * 2.0
  let wk := q.w * q.k * 2.0
  let wj := q.w * q.j * 2.0
  let ik := q.i * q.k * 2.0
  let jk := q.j * q.k * 2.0
  let wi := q.w * q.i * 2.0
  { r00 := ww + ii - jj - kk, r01 := ij - wk, r02 := wj + ik
    r10 := wk + ij, r11 := ww - ii + jj - kk, r12 := jk - wi
    r20 := ik - wj, r21 := wi + jk, r22 := ww - ii - jj + kk }

/-- The cosine of the tilt: the body's down axis projected on the earth's. -/
def tiltCosine (q : Attitude α) : α := q.rotation.r22

/-- Roll, pitch and yaw of an attitude. -/
def angles (q : Attitude α) : Angles α := q.rotation.angles

/-- The attitude with this roll, pitch and yaw. -/
def ofAngles (roll pitch yaw : α) : Attitude α :=
  let sr := Scalar.sin (roll * 0.5)
  let cr := Scalar.cos (roll * 0.5)
  let sp := Scalar.sin (pitch * 0.5)
  let cp := Scalar.cos (pitch * 0.5)
  let sy := Scalar.sin (yaw * 0.5)
  let cy := Scalar.cos (yaw * 0.5)
  { i := sr * cp * cy - cr * sp * sy
    j := cr * sp * cy + sr * cp * sy
    k := cr * cp * sy - sr * sp * cy
    w := cr * cp * cy + sr * sp * sy }

/-- The attitude with the roll and pitch of `q` and this yaw. -/
def withYaw (q : Attitude α) (yaw : α) : Attitude α :=
  ofAngles q.angles.roll q.angles.pitch yaw

/-- The rotation that leads from `old` to `new`. -/
def difference (new old : Attitude α) : Attitude α := new.mul old.inverse

end Attitude

end NavArbiter

/-
# Vectors of the local frame

Components are north, east and down in the earth frame, and forward, right and down in the
body frame.  `Vec2` is the horizontal part of a `Vec3`.
-/
import NavArbiter.Scalar

namespace NavArbiter

/-- A horizontal vector. -/
structure Vec2 (α : Type) where
  x : α
  y : α
  deriving DecidableEq

/-- A vector in space. -/
structure Vec3 (α : Type) where
  x : α
  y : α
  z : α
  deriving DecidableEq

variable {α : Type} [Scalar α]

namespace Vec2

def zero : Vec2 α := ⟨0.0, 0.0⟩

def add (v w : Vec2 α) : Vec2 α := ⟨v.x + w.x, v.y + w.y⟩

def sub (v w : Vec2 α) : Vec2 α := ⟨v.x - w.x, v.y - w.y⟩

end Vec2

namespace Vec3

def zero : Vec3 α := ⟨0.0, 0.0, 0.0⟩

/-- The vector with this number in each place. -/
def replicate (a : α) : Vec3 α := ⟨a, a, a⟩

/-- The horizontal part. -/
def horizontal {α : Type} (v : Vec3 α) : Vec2 α := ⟨v.x, v.y⟩

/-- The vector with another horizontal part. -/
def withHorizontal {α : Type} (v : Vec3 α) (h : Vec2 α) : Vec3 α := ⟨h.x, h.y, v.z⟩

def add (v w : Vec3 α) : Vec3 α := ⟨v.x + w.x, v.y + w.y, v.z + w.z⟩

def scale (v : Vec3 α) (a : α) : Vec3 α := ⟨v.x * a, v.y * a, v.z * a⟩

def cross (v w : Vec3 α) : Vec3 α :=
  ⟨v.y * w.z - v.z * w.y, v.z * w.x - v.x * w.z, v.x * w.y - v.y * w.x⟩

/-- Length of the vector. -/
def norm (v : Vec3 α) : α := Scalar.sqrt (v.x * v.x + v.y * v.y + v.z * v.z)

/-- Every component is finite. -/
def isFinite (v : Vec3 α) : Bool :=
  Scalar.isFinite v.x && Scalar.isFinite v.y && Scalar.isFinite v.z

end Vec3

end NavArbiter

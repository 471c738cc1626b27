/-
# Velocity and position components

The six scalar states that measurements correct one at a time.  Each has a place among the error
states, and an innovation and test ratio of its own.
-/
import NavArbiter.Covariance
import NavArbiter.Sample

namespace NavArbiter

/-- A component of velocity or position. -/
inductive Component where
  | velNorth
  | velEast
  | velDown
  | posNorth
  | posEast
  | posDown
  deriving DecidableEq, Repr

namespace Component

/-- All components, in the order of their states. -/
def all : List Component := [velNorth, velEast, velDown, posNorth, posEast, posDown]

/-- Place of a component in `Component.all`. -/
def index : Component → Fin 6
  | velNorth => 0
  | velEast => 1
  | velDown => 2
  | posNorth => 3
  | posEast => 4
  | posDown => 5

/-- The error state of a component. -/
def state : Component → Fin stateDim
  | velNorth => 4
  | velEast => 5
  | velDown => 6
  | posNorth => 7
  | posEast => 8
  | posDown => 9

/-- The component whose error state has this number. -/
def ofState? : Nat → Option Component
  | 4 => some velNorth
  | 5 => some velEast
  | 6 => some velDown
  | 7 => some posNorth
  | 8 => some posEast
  | 9 => some posDown
  | _ => none

theorem ofState?_state (c : Component) : ofState? c.state.val = some c := by
  cases c <;> rfl

end Component

namespace NavState

variable {α : Type}

/-- The value of a component. -/
def get (n : NavState α) : Component → α
  | .velNorth => n.velocity.x
  | .velEast => n.velocity.y
  | .velDown => n.velocity.z
  | .posNorth => n.position.x
  | .posEast => n.position.y
  | .posDown => n.position.z

/-- The state with a component replaced. -/
def set (n : NavState α) (c : Component) (a : α) : NavState α :=
  match c with
  | .velNorth => { n with velocity := { n.velocity with x := a } }
  | .velEast => { n with velocity := { n.velocity with y := a } }
  | .velDown => { n with velocity := { n.velocity with z := a } }
  | .posNorth => { n with position := { n.position with x := a } }
  | .posEast => { n with position := { n.position with y := a } }
  | .posDown => { n with position := { n.position with z := a } }

theorem get_set (n : NavState α) (c d : Component) (a : α) :
    (n.set c a).get d = if c = d then a else n.get d := by
  cases c <;> cases d <;> rfl

/-- The state with another horizontal position. -/
def withHorizontalPosition (n : NavState α) (p : Vec2 α) : NavState α :=
  { n with position := n.position.withHorizontal p }

/-- The state with another horizontal velocity. -/
def withHorizontalVelocity (n : NavState α) (v : Vec2 α) : NavState α :=
  { n with velocity := n.velocity.withHorizontal v }

/-- The output at one time that the state stands for. -/
def output (n : NavState α) (now : Time) : OutputSample α where
  time := now
  attitude := n.attitude
  velocity := n.velocity
  position := n.position

end NavState

end NavArbiter

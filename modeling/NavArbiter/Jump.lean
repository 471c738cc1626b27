/-
# Jumps of the estimate

A reset moves the estimate at once.  The jump it makes is logged: a counter of its kind
advances, so that a reader of telemetry notices the discontinuity, and the jump itself is kept
until it has been applied to the buffered outputs.  Counters wrap around after 256 jumps.
-/
import NavArbiter.History
import NavArbiter.Sample

namespace NavArbiter

/-- A sudden change of the estimate. -/
inductive Jump (α : Type) where
  | attitude (rotation : Attitude α)
  | horizontalPosition (delta : Vec2 α)
  | horizontalVelocity (delta : Vec2 α)
  | verticalPosition (delta : α)
  | verticalVelocity (delta : α)

/-- The part of the estimate that a jump changes. -/
inductive JumpKind where
  | attitude
  | horizontalPosition
  | horizontalVelocity
  | verticalPosition
  | verticalVelocity
  deriving DecidableEq, Repr

/-- How many jumps of each kind there were, modulo 256. -/
structure JumpCounters where
  attitude : UInt8 := 0
  horizontalPosition : UInt8 := 0
  horizontalVelocity : UInt8 := 0
  verticalPosition : UInt8 := 0
  verticalVelocity : UInt8 := 0
  deriving DecidableEq, Repr

/-- The counters, and the jumps that have not been applied to the outputs. -/
structure JumpLog (α : Type) where
  counters : JumpCounters := {}
  pending : List (Jump α) := []

/-- The kind of a jump. -/
def Jump.kind {α : Type} : Jump α → JumpKind
  | .attitude _ => .attitude
  | .horizontalPosition _ => .horizontalPosition
  | .horizontalVelocity _ => .horizontalVelocity
  | .verticalPosition _ => .verticalPosition
  | .verticalVelocity _ => .verticalVelocity

namespace JumpCounters

/-- The counter of a kind. -/
def get (c : JumpCounters) : JumpKind → UInt8
  | .attitude => c.attitude
  | .horizontalPosition => c.horizontalPosition
  | .horizontalVelocity => c.horizontalVelocity
  | .verticalPosition => c.verticalPosition
  | .verticalVelocity => c.verticalVelocity

/-- The counters after one more jump of a kind. -/
def count (c : JumpCounters) : JumpKind → JumpCounters
  | .attitude => { c with attitude := c.attitude + 1 }
  | .horizontalPosition => { c with horizontalPosition := c.horizontalPosition + 1 }
  | .horizontalVelocity => { c with horizontalVelocity := c.horizontalVelocity + 1 }
  | .verticalPosition => { c with verticalPosition := c.verticalPosition + 1 }
  | .verticalVelocity => { c with verticalVelocity := c.verticalVelocity + 1 }

theorem get_count (c : JumpCounters) (k l : JumpKind) :
    (c.count k).get l = if k = l then c.get l + 1 else c.get l := by
  cases k <;> cases l <;> rfl

end JumpCounters

namespace JumpLog

variable {α : Type}

/-- The log with a jump noted. -/
def record (l : JumpLog α) (j : Jump α) : JumpLog α where
  counters := l.counters.count j.kind
  pending := l.pending ++ [j]

/-- The log after its pending jumps were handed over. -/
def cleared (l : JumpLog α) : JumpLog α := { l with pending := [] }

end JumpLog

variable {α : Type} [Scalar α]

namespace Jump

/-- The output sample moved along with a jump. -/
def apply (j : Jump α) (o : OutputSample α) : OutputSample α :=
  match j with
  | .attitude r => { o with attitude := r.mul o.attitude }
  | .horizontalPosition d =>
      { o with position := o.position.withHorizontal (o.position.horizontal.add d) }
  | .horizontalVelocity d =>
      { o with velocity := o.velocity.withHorizontal (o.velocity.horizontal.add d) }
  | .verticalPosition d => { o with position := { o.position with z := o.position.z + d } }
  | .verticalVelocity d => { o with velocity := { o.velocity with z := o.velocity.z + d } }

/-- The output history moved along with a jump. -/
def applyToOutputs (j : Jump α) (outputs : History (OutputSample α)) :
    History (OutputSample α) :=
  outputs.map j.apply

/-- The output history moved along with jumps, in their order. -/
def applyAll (js : List (Jump α)) (outputs : History (OutputSample α)) :
    History (OutputSample α) :=
  js.foldl (fun o j => j.applyToOutputs o) outputs

end Jump

end NavArbiter

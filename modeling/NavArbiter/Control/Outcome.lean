/-
# What controllers read and what they leave

In every cycle the controllers run one after another over the same inputs, the `Context`, which
includes the status as it stood when the cycle began.  Each takes the standing of the arbitration
and the core as the one before it left them, and answers with an `Outcome`: the new standing and
core, the events it announces and the requests it made.

`Outcome.andThen` runs a controller after an outcome and joins what both announced.
-/
import NavArbiter.Estimator
import NavArbiter.Event
import NavArbiter.Health
import NavArbiter.Settings
import NavArbiter.Status

namespace NavArbiter

/-- The time of a cycle: now, and the delayed moment at which measurements are fused. -/
structure Clock where
  now : Time
  horizon : Time
  deriving DecidableEq, Repr

/-- What every controller reads in a cycle. -/
structure Context (α : Type) where
  clock : Clock
  settings : Settings α
  histories : Histories α
  /-- The status at the start of the cycle. -/
  before : Status

/-- What the arbitration keeps from cycle to cycle. -/
structure Standing (α : Type) where
  status : Status
  health : Health
  /-- The horizontal position held after aiding was lost. -/
  anchor : Vec2 α
  /-- The vertical position last seen on the ground. -/
  ground : α

/-- What a controller leaves. -/
structure Outcome (α C : Type) where
  standing : Standing α
  core : C
  events : List (Event α)
  requests : List Request

namespace Context

variable {α β : Type} [Timed β]

/-- The sample at the fusion horizon is younger than `maxAge` there. -/
def horizonFresh (x : Context α) (h : History β) (maxAge : Nat) : Bool :=
  match h.near? x.clock.horizon with
  | some s => decide (Time.age x.clock.horizon (time s) < maxAge)
  | none => false

/-- The newest sample is younger than `maxAge`. -/
def isFresh (x : Context α) (h : History β) (maxAge : Nat) : Bool :=
  h.isFresh x.clock.now maxAge

end Context

namespace Standing

variable {α : Type}

/-- The standing before the first cycle. -/
def initial [Scalar α] : Standing α where
  status := .initial
  health := .initial
  anchor := .zero
  ground := 0.0

/-- The standing with its status rewritten. -/
def mapStatus (s : Standing α) (f : Status → Status) : Standing α :=
  { s with status := f s.status }

/-- The standing with its health rewritten. -/
def mapHealth (s : Standing α) (f : Health → Health) : Standing α :=
  { s with health := f s.health }

/-- The standing with yaw aligned or not. -/
def setYawAligned (s : Standing α) (aligned : Bool) : Standing α :=
  s.mapStatus fun t => { t with yawAligned := aligned }

end Standing

namespace Outcome

variable {α C : Type}

/-- Nothing was decided. -/
def unchanged (s : Standing α) (c : C) : Outcome α C := ⟨s, c, [], []⟩

/-- The outcome of a controller that runs after this one. -/
def andThen (o : Outcome α C) (next : Standing α → C → Outcome α C) : Outcome α C :=
  let r := next o.standing o.core
  ⟨r.standing, r.core, o.events ++ r.events, o.requests ++ r.requests⟩

end Outcome

/-! ## Heading attempts -/

/-- A standing and a core after an attempt to align yaw. -/
structure Alignment (α C : Type) where
  standing : Standing α
  core : C
  requests : List Request

/-- Aligns yaw with the newest magnetometer sample, unless it is aligned already. -/
def Alignment.ofMag {α C : Type} [Estimator α C] (x : Context α) (s : Standing α) (c : C) :
    Alignment α C :=
  if s.status.yawAligned then ⟨s, c, []⟩
  else
    let r := Estimator.askHeadingFromMag c x.histories
    ⟨s.setYawAligned r.granted, r.core, r.requests⟩

end NavArbiter

/-
# Replaying a log

A replay drives the arbiter and the core of gated corrections through a log.  For each reading the
new samples pass through the inboxes into the histories, the core is carried forward, the arbiter
decides, and the core fuses what the new status allows.  The summary tells where that ends and how
often each event occurred.
-/
import NavArbiter.Arbiter
import NavArbiter.Estimator.Fusion
import NavArbiter.Health.Report
import NavArbiter.Replay.Log
import NavArbiter.Status.Word

namespace NavArbiter

/-- How a log is replayed. -/
structure ReplayOptions where
  /-- How far the fusion horizon lies behind the newest time, in milliseconds. -/
  delay : Nat := 100
  /-- How many samples each history and inbox keeps. -/
  capacity : Nat := 12

/-- Why a log is not replayed. -/
inductive ReplayFailure (α : Type) where
  | outOfRange (error : SettingError α)
  | zeroCapacity

/-- The state of a replay between two readings. -/
structure Replay (α : Type) where
  arbiter : Arbiter α
  core : GatedFilter α
  histories : Histories α
  inboxes : Inboxes α
  /-- How many samples have been taken over. -/
  samples : Nat
  /-- The time of the reading before. -/
  last : Option Time
  /-- The events so far, with the times of their cycles. -/
  events : List (Time × Event α)

/-- What a replay ends with. -/
structure Summary (α : Type) where
  cycles : Nat
  samples : Nat
  status : Status
  faulty : List Sensor
  counters : JumpCounters
  declination : α
  eventCounts : List (String × Nat)
  position : Vec3 α
  anchor : Vec2 α

namespace Replay

variable {α : Type} [Scalar α]

/-- A replay before its first reading. -/
def start (o : ReplayOptions) (s : Settings α) : Except (ReplayFailure α) (Replay α) :=
  match Arbiter.new s with
  | .error e => .error (.outOfRange e)
  | .ok arbiter =>
      if h : 0 < o.capacity then
        .ok { arbiter := arbiter
              core := .ofSettings s
              histories := .empty o.capacity h
              inboxes := .empty o.capacity h
              samples := 0
              last := none
              events := [] }
      else .error .zeroCapacity

/-- The replay with the samples of a reading taken over. -/
def takeOver (p : Replay α) (r : Reading α) : Replay α :=
  let inboxes := p.inboxes.queueAll r.measured
  { p with
    inboxes := inboxes.drained
    histories := inboxes.drainInto p.histories
    samples := p.samples + inboxes.size }

/-- Seconds since the reading before; zero for the first. -/
def interval (p : Replay α) (now : Time) : α :=
  match p.last with
  | some t => Time.seconds (Time.age now t)
  | none => 0.0

/-- The replay with its core carried forward to a reading. -/
def advance (p : Replay α) (r : Reading α) : Replay α :=
  let core := if r.measured.gps.isSome then { p.core with originSet := true } else p.core
  { p with core := core.predict r.time (p.interval r.time) (!r.inAir), last := some r.time }

/-- The replay after the arbitration and fusion of a reading. -/
def decide (o : ReplayOptions) (p : Replay α) (r : Reading α) : Replay α :=
  let clock : Clock := ⟨r.time, r.time - o.delay * 1000⟩
  let c := (p.arbiter.setInAir r.inAir).update clock p.histories p.core
  let standing := c.arbiter.standing
  let fused := c.core.fuseActive standing.health
    ⟨standing.status, p.histories, clock.horizon, clock.now⟩
  { p with
    arbiter := { c.arbiter with standing := { standing with health := fused.health } }
    core := fused.core
    events := p.events ++ c.events.map fun e => (r.time, e) }

/-- The replay after one more reading. -/
def step (o : ReplayOptions) (p : Replay α) (r : Reading α) : Replay α :=
  ((p.takeOver r).advance r).decide o r

/-- The replay after a log. -/
def run (o : ReplayOptions) (s : Settings α) (log : Log α) :
    Except (ReplayFailure α) (Replay α) :=
  (start o s).map fun p => log.readings.foldl (step o) p

/-! ## Summary -/

/-- Counts with one more occurrence of a name, in the order of the names. -/
def countName (name : String) : List (String × Nat) → List (String × Nat)
  | [] => [(name, 1)]
  | (n, k) :: rest =>
      if name = n then (n, k + 1) :: rest
      else if name < n then (name, 1) :: (n, k) :: rest
      else (n, k) :: countName name rest

/-- How often each name occurs, in the order of the names. -/
def tally (names : List String) : List (String × Nat) :=
  names.foldl (fun counts name => countName name counts) []

/-- Radians as degrees. -/
def degrees (x : α) : α := x * (180.0 / Scalar.pi)

/-- The summary of a replay of this many readings. -/
def summary (p : Replay α) (cycles : Nat) : Summary α where
  cycles := cycles
  samples := p.samples
  status := p.arbiter.standing.status
  faulty := p.arbiter.standing.health.faultySensors
  counters := p.core.jumps.counters
  declination := p.core.declination
  eventCounts := tally (p.events.map fun e => e.2.name)
  position := p.core.nav.position
  anchor := p.arbiter.standing.anchor

end Replay

end NavArbiter

/-
# Flights

A flight is an arbiter together with the core it arbitrates.  Its steps are the cycles of the
arbiter and the word of the landing detector, and between them the predictions of the core and its
fusions, whose outcomes are noted in the health record of the arbiter.  Histories and times come
with the steps, so a flight leaves open what the sensors deliver and whether clocks run backwards.

Any core may fly that predicts and fuses through a gated filter: how it answers the requests of a
cycle is its own affair, and it may be adjusted from outside between two steps.
-/
import NavArbiter.Estimator.Fusion
import NavArbiter.Estimator.Impaired
import NavArbiter.Proofs.Decision
import NavArbiter.Proofs.Run

namespace NavArbiter

/-- A core that predicts and fuses through a gated filter behind it. -/
class FilterCore (α : outParam Type) (C : Type) extends Estimator α C where
  filter : C → GatedFilter α
  withFilter : C → GatedFilter α → C

instance {α : Type} [Scalar α] : FilterCore α (GatedFilter α) where
  filter f := f
  withFilter _ f := f

instance {α : Type} [Scalar α] : FilterCore α (Impaired α (GatedFilter α)) where
  filter := Impaired.core
  withFilter := Impaired.withCore

/-- A step of a flight. -/
inductive FlightStep (α C : Type) where
  | update (clock : Clock) (histories : Histories α)
  | setInAir (inAir : Bool)
  | predict (now : Time) (dt : α) (atRest : Bool)
  /-- The core fuses what a status allows; as a rule that is the status of the arbiter. -/
  | fuse (input : FusionInput α)
  /-- The core is changed from outside: it may learn its origin, or come to refuse resets. -/
  | adjust (change : C → C)

/-- The time at which a step is made, if it has one. -/
def FlightStep.time? {α C : Type} : FlightStep α C → Option Time
  | .update clock _ => some clock.now
  | .setInAir _ => none
  | .predict now _ _ => some now
  | .fuse input => some input.now
  | .adjust _ => none

/-- An arbiter with its core. -/
structure Flight (α C : Type) where
  arbiter : Arbiter α
  core : C

namespace Flight

variable {α C : Type} [Scalar α] [FilterCore α C]

/-- The cycle of the arbiter on the core of the flight. -/
def cycle (f : Flight α C) (clock : Clock) (h : Histories α) : Cycle α C :=
  f.arbiter.update clock h f.core

/-- The flight after a step. -/
def step (f : Flight α C) : FlightStep α C → Flight α C
  | .update clock h => ⟨(f.cycle clock h).arbiter, (f.cycle clock h).core⟩
  | .setInAir inAir => { f with arbiter := f.arbiter.setInAir inAir }
  | .predict now dt atRest =>
      let predicted := (FilterCore.filter f.core).predict now dt atRest
      { f with core := FilterCore.withFilter f.core predicted }
  | .fuse input =>
      let fused := (FilterCore.filter f.core).fuseActive f.arbiter.standing.health input
      ⟨f.arbiter.writeHealth fused.health, FilterCore.withFilter f.core fused.core⟩
  | .adjust change => { f with core := change f.core }

/-- The flight after steps, in their order. -/
def after (f : Flight α C) (steps : List (FlightStep α C)) : Flight α C := steps.foldl step f

/-- What a step announces, with the time; only a cycle announces anything. -/
def eventsOf (f : Flight α C) : FlightStep α C → List (Time × Event α)
  | .update clock h => (f.cycle clock h).events.map fun e => (clock.now, e)
  | .setInAir _ => []
  | .predict _ _ _ => []
  | .fuse _ => []
  | .adjust _ => []

/-- What the steps announce, in their order. -/
def journal (f : Flight α C) : List (FlightStep α C) → List (Time × Event α)
  | [] => []
  | k :: ks => f.eventsOf k ++ (f.step k).journal ks

theorem standing_update (f : Flight α C) (clock : Clock) (h : Histories α) :
    (f.step (.update clock h)).arbiter.standing =
      (Arbiter.settled (f.arbiter.context clock h) f.arbiter.standing f.core).standing := by
  rw [step, cycle, Arbiter.update_eq]

theorem requests_cycle (f : Flight α C) (clock : Clock) (h : Histories α) :
    (f.cycle clock h).requests =
      (Arbiter.settled (f.arbiter.context clock h) f.arbiter.standing f.core).requests := by
  rw [cycle, Arbiter.update_eq]

/-- What holds before steps and is kept by each of them holds after them. -/
theorem after_keeps {P : Flight α C → Prop} :
    ∀ {f : Flight α C} (steps : List (FlightStep α C)),
      (∀ g, ∀ k ∈ steps, P g → P (g.step k)) → P f → P (f.after steps)
  | _, [], _, h => h
  | f, k :: ks, step, h =>
      after_keeps (f := f.step k) ks
        (fun g l hl => step g l (List.mem_cons_of_mem k hl))
        (step f k (List.mem_cons_self ..) h)

theorem settings_step (f : Flight α C) (k : FlightStep α C) :
    (f.step k).arbiter.settings = f.arbiter.settings := by
  cases k <;> rfl

theorem settings_after (f : Flight α C) (steps : List (FlightStep α C)) :
    (f.after steps).arbiter.settings = f.arbiter.settings :=
  after_keeps (P := fun g => g.arbiter.settings = f.arbiter.settings) steps
    (fun g k _ hg => (settings_step g k).trans hg) rfl

end Flight

/-! ## Something to fly with -/

/-- A core at rest that has found its tilt and knows its origin. -/
def GatedFilter.levelled {α : Type} [Scalar α] : GatedFilter α :=
  { GatedFilter.ofSettings Settings.default with
    rotationVariances := ⟨1e-4, 1e-4, 0.1⟩
    originSet := true }

/-- A history of these samples. -/
def historyOf {β : Type} (samples : List β) : History β := History.pushAll (.empty 12) samples

theorem Histories.defaultCapacity_pos : 0 < Histories.defaultCapacity := by decide

/-- No sensor has delivered anything. -/
def noSamples : Histories Float := .empty Histories.defaultCapacity Histories.defaultCapacity_pos

/-- Fixes of the origin, at these times. -/
def fixesAt (times : List Time) : History (GpsSample Float) :=
  historyOf (times.map fun t => ⟨t, .zero, 0.0, .zero, 1.0, 1.0, 0.5⟩)

/-- Vision may take over position and yaw. -/
def visionAided : Settings Float :=
  { Settings.default with allowed := { visionPosition := true, visionYaw := true } }

/-- A pose and a field. -/
def poseAndField : Histories Float :=
  { noSamples with
    vision := historyOf [⟨900000, .zero, .identity, 0.1, 0.1⟩]
    mag := historyOf [⟨900000, ⟨0.2, 0.0, 0.4⟩⟩] }

/-- An arbiter that has aligned tilt and yaw, the latter to a field. -/
def alignedWith (settings : Settings Float) : Arbiter Float :=
  (Arbiter.ofSettings settings).after
    [.update ⟨1000000, 900000⟩ { poseAndField with vision := noSamples.vision }
      (GatedFilter.levelled : GatedFilter Float)]

end NavArbiter

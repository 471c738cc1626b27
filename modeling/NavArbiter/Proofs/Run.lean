/-
# Runs of an arbiter

Three calls change an arbiter: a cycle, the word of the landing detector, and a writing of its
health record from outside.  A run is any list of them.  The core and the histories of a cycle come
with the call, so a run leaves open what happened to a core between cycles and how it answers, and
times may go in any direction.
-/
import NavArbiter.Arbiter

namespace NavArbiter

/-- A call on an arbiter. -/
inductive Call (α C : Type) where
  | update (clock : Clock) (histories : Histories α) (core : C)
  | setInAir (inAir : Bool)
  | writeHealth (health : Health)

namespace Arbiter

variable {α C : Type} [Scalar α]

/-- The arbiter with its health record replaced. -/
def writeHealth (a : Arbiter α) (h : Health) : Arbiter α :=
  { a with standing := a.standing.mapHealth fun _ => h }

/-- Only settings that pass their check make an arbiter. -/
theorem eq_ofSettings_of_new {s : Settings α} {a : Arbiter α} (h : Arbiter.new s = .ok a) :
    a = ofSettings s := by
  unfold Arbiter.new at h
  cases hc : s.check with
  | error e => rw [hc] at h; cases h
  | ok u => rw [hc] at h; cases h; rfl

variable [Estimator α C]

/-- The arbiter after a call. -/
def call (a : Arbiter α) : Call α C → Arbiter α
  | .update clock h c => (a.update clock h c).arbiter
  | .setInAir inAir => a.setInAir inAir
  | .writeHealth h => a.writeHealth h

/-- The events of a call; only a cycle has any. -/
def eventsOf (a : Arbiter α) : Call α C → List (Event α)
  | .update clock h c => (a.update clock h c).events
  | .setInAir _ => []
  | .writeHealth _ => []

/-- The arbiter after a run. -/
def after (a : Arbiter α) (calls : List (Call α C)) : Arbiter α := calls.foldl call a

/-- The events of a run, in their order. -/
def journal (a : Arbiter α) : List (Call α C) → List (Event α)
  | [] => []
  | k :: ks => a.eventsOf k ++ (a.call k).journal ks

/-- What holds before a run and is kept by each call holds after it. -/
theorem after_keeps {P : Arbiter α → Prop} (step : ∀ a (k : Call α C), P a → P (a.call k)) :
    ∀ {a : Arbiter α} (calls : List (Call α C)), P a → P (a.after calls)
  | _, [], h => h
  | a, k :: ks, h => after_keeps step (a := a.call k) ks (step a k h)

/-- Every event of a run is one of a call on an arbiter of that run. -/
theorem exists_of_mem_journal {P : Arbiter α → Prop}
    (step : ∀ a (k : Call α C), P a → P (a.call k)) {e : Event α} :
    ∀ {a : Arbiter α} {calls : List (Call α C)}, P a → e ∈ a.journal calls →
      ∃ b k, P b ∧ e ∈ b.eventsOf (k : Call α C)
  | _, [], _, he => absurd he List.not_mem_nil
  | a, k :: ks, h, he => by
      rcases List.mem_append.mp he with hk | hks
      · exact ⟨a, k, h, hk⟩
      · exact exists_of_mem_journal step (a := a.call k) (step a k h) hks

end Arbiter

end NavArbiter

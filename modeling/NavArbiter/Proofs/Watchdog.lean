/-
# Forced actions are rate limited

Three limits say how long fusions may be missed before the arbitration acts by itself.  Each looks
at clocks of its own, and the action it forces sets them again, as does a start of the source:

    watchdog     its clocks              forces                       set again by
    height       height                  a height reset               a height reset
    horizontal   position and velocity   a reset to, or the loss of   a reset to satellites, or
                                         satellite navigation         their start without flow
    flow         fusion of flow          the loss of flow             a start of flow

Whatever else sets a clock sets it to the time at which it does so (`Health.Advanced`).  So once a
cycle has set the clocks of a watchdog, they never again show an earlier time as long as time does
not run backwards, and the watchdog keeps quiet until its limit has passed.
-/
import NavArbiter.Proofs.FusionTimes
import NavArbiter.Proofs.StatusLaws

namespace NavArbiter

/-- The limits on how long fusions may be missed. -/
inductive Watchdog where
  | height
  | horizontal
  | flow
  deriving DecidableEq

namespace Watchdog

/-- How old its clocks may be. -/
def limit {α : Type} (t : Timeouts α) : Watchdog → Nat
  | .height => t.heightFusionTimeout
  | .horizontal => t.gpsFusionTimeout
  | .flow => t.flowFusionTimeout

/-- The clocks it looks at.  It acts only when all of them are too old. -/
def clocks (h : Health) : Watchdog → List (Option Time)
  | .height => [h.clock .height]
  | .horizontal => [h.clock .position, h.clock .velocity]
  | .flow => [(h.sensor .flow).lastFusion]

end Watchdog

/-- The watchdog that forced the action announced, be it carried out or refused. -/
def Event.forcedBy {α : Type} : Event α → Option Watchdog
  | .heightReset _ _ => some .height
  | .heightResetDenied _ => some .height
  | .heightResetFailed _ _ => some .height
  | .gpsLost _ => some .horizontal
  | .gpsResetToMeasurement => some .horizontal
  | .gpsResetFailed => some .horizontal
  | .flowLost _ => some .flow
  | _ => none

/-- The watchdog whose clocks the action announced has set, given the status before the cycle.
Satellite navigation that starts beside flow sets none. -/
def Event.rearms {α : Type} (before : Status) : Event α → Option Watchdog
  | .heightReset _ _ => some .height
  | .gpsResetToMeasurement => some .horizontal
  | .gpsStarted => if before.flow then none else some .horizontal
  | .flowStarted => some .flow
  | _ => none

namespace Watchdog

variable {k : Watchdog} {t : Time}

theorem mem_clocks_advanced {now : Time} {h h' : Health} (a : h.Advanced now h')
    {c : Option Time} (hc : c ∈ k.clocks h') : c ∈ k.clocks h ∨ c = some now := by
  cases k with
  | height =>
      obtain rfl := List.mem_singleton.mp hc
      exact (a.clock .height).imp_left List.mem_singleton.mpr
  | horizontal =>
      rcases List.mem_pair.mp hc with rfl | rfl
      · exact (a.clock .position).imp_left fun e => List.mem_pair.mpr (Or.inl e)
      · exact (a.clock .velocity).imp_left fun e => List.mem_pair.mpr (Or.inr e)
  | flow =>
      obtain rfl := List.mem_singleton.mp hc
      exact (a.fusion .flow).imp_left List.mem_singleton.mpr

/-- All its clocks were set at `t` or later. -/
def SetSince (k : Watchdog) (t : Time) (h : Health) : Prop :=
  ∀ c ∈ k.clocks h, ∃ u, c = some u ∧ t ≤ u

theorem SetSince.advanced {now : Time} {h h' : Health} (hs : k.SetSince t h)
    (a : h.Advanced now h') (hn : t ≤ now) : k.SetSince t h' := by
  intro c hc
  rcases mem_clocks_advanced a hc with hc | rfl
  · exact hs c hc
  · exact ⟨now, rfl, hn⟩

/-- Clocks set at `t` or later are not too old until the limit after `t` has passed. -/
theorem SetSince.not_overdue {now : Time} {h : Health} {limit : Nat} (hs : k.SetSince t h)
    (soon : now ≤ t + limit) : ¬ ∀ c ∈ k.clocks h, limit < Time.ageOf now c := by
  intro overdue
  obtain ⟨c, hc⟩ : ∃ c, c ∈ k.clocks h := by
    cases k <;> exact ⟨_, List.mem_cons_self ..⟩
  obtain ⟨u, rfl, hu⟩ := hs c hc
  refine absurd (overdue _ hc) (Nat.not_lt.mpr ?_)
  calc now - u ≤ now - t := Nat.sub_le_sub_left hu now
    _ ≤ limit := Nat.sub_le_iff_le_add'.mpr soon

/-! ## One cycle -/

section Decision

variable {α C : Type} [Scalar α] [Estimator α C] {x : Context α} {s : Standing α} {c : C}
  {o : Outcome α C}

/-- A forced action waits for every clock to be older than the limit. -/
theorem overdue_decision (hd : Decision x s c o) {e : Event α} (he : e ∈ o.events)
    (hf : e.forcedBy = some k) :
    ∀ t ∈ k.clocks s.health, k.limit x.settings.timeouts < Time.ageOf x.clock.now t := by
  cases hd with
  | loseFlow _ _ _ hl =>
      -- a decision announces one event, and the event says which watchdog `k` is
      obtain rfl := List.mem_singleton.mp he
      cases hf
      simp only [Flow.isLost, Bool.and_eq_true, decide_eq_true_eq] at hl
      exact List.forall_mem_singleton.mpr hl.2
  | loseGps _ _ _ _ ht _ | recoverGps _ _ _ ht _ | failRecovery _ _ _ ht _ _ =>
      obtain rfl := List.mem_singleton.mp he
      cases hf
      simp only [Gps.timedOut, Bool.and_eq_true, decide_eq_true_eq] at ht
      exact List.forall_mem_cons.mpr ⟨ht.1, List.forall_mem_singleton.mpr ht.2⟩
  | denyHeightReset _ ht _ | resetHeight _ _ ht _ | failHeightReset _ _ ht _ =>
      obtain rfl := List.mem_singleton.mp he
      cases hf
      simp only [Height.timedOut, Bool.and_eq_true, decide_eq_true_eq] at ht
      exact List.forall_mem_singleton.mpr ht.2
  | refreshDeclination | alignYaw | noteGround | settleMag | enterThreeAxis =>
      exact absurd he List.not_mem_nil
  | _ =>
      obtain rfl := List.mem_singleton.mp he
      cases hf

/-- An action that sets clocks sets them to the time of the cycle. -/
theorem rearmed_decision (hd : Decision x s c o) {e : Event α} (he : e ∈ o.events)
    (hr : e.rearms x.before = some k) :
    ∀ t ∈ k.clocks o.standing.health, t = some x.clock.now := by
  cases hd with
  | startFlow =>
      obtain rfl := List.mem_singleton.mp he
      cases hr
      simp [clocks, Standing.mapHealth, Health.recordFusion, Health.sensor_modifySensor]
  | startGpsBesideFlow _ _ hf =>
      obtain rfl := List.mem_singleton.mp he
      rw [Event.rearms, if_pos hf] at hr
      cases hr
  | startGps _ _ hf =>
      obtain rfl := List.mem_singleton.mp he
      rw [Event.rearms, hf] at hr
      cases hr
      exact List.forall_mem_cons.mpr ⟨rfl, List.forall_mem_singleton.mpr rfl⟩
  | recoverGps =>
      obtain rfl := List.mem_singleton.mp he
      cases hr
      exact List.forall_mem_cons.mpr ⟨rfl, List.forall_mem_singleton.mpr rfl⟩
  | resetHeight =>
      obtain rfl := List.mem_singleton.mp he
      cases hr
      exact List.forall_mem_singleton.mpr rfl
  | refreshDeclination | alignYaw | noteGround | settleMag | enterThreeAxis =>
      exact absurd he List.not_mem_nil
  | _ =>
      obtain rfl := List.mem_singleton.mp he
      cases hr

/-- Once an action of a cycle has set the clocks, they show its time for the rest of the cycle. -/
theorem rearmed_settled (x : Context α) (s : Standing α) (c : C) :
    let o := Arbiter.settled x s c
    (∃ e ∈ o.events, e.rearms x.before = some k) →
      ∀ t ∈ k.clocks o.standing.health, t = some x.clock.now := by
  refine (Arbiter.settled_decisions x s c).keep
    (P := fun o => (∃ e ∈ o.events, e.rearms x.before = some k) →
      ∀ t ∈ k.clocks o.standing.health, t = some x.clock.now) (by simp [Outcome.unchanged]) ?_
  rintro o p ih hd ⟨e, he, hr⟩ t ht
  rcases List.mem_append.mp he with he | he
  -- clocks that an earlier decision has set are left, or set to the same time again
  · exact (mem_clocks_advanced (advanced_decision (o := p) hd) ht).elim (ih ⟨e, he, hr⟩ t) id
  · exact rearmed_decision (o := p) hd he hr t ht

/-- What a cycle has kept so far while its time is within the limit of clocks set at `t`. -/
structure Quiet (k : Watchdog) (t : Time) (o : Outcome α C) : Prop where
  setSince : k.SetSince t o.standing.health
  silent : ∀ e ∈ o.events, e.forcedBy ≠ some k

theorem quiet_settled (c : C) (hs : k.SetSince t s.health) (ht : t ≤ x.clock.now)
    (soon : x.clock.now ≤ t + k.limit x.settings.timeouts) :
    k.Quiet t (Arbiter.settled x s c) := by
  refine (Arbiter.settled_decisions x s c).keep ⟨hs, by simp [Outcome.unchanged]⟩ ?_
  rintro o p h hd
  refine ⟨h.setSince.advanced (advanced_decision (o := p) hd) ht, fun e he hf => ?_⟩
  rcases List.mem_append.mp he with he | he
  · exact h.silent e he hf
  · exact h.setSince.not_overdue soon (overdue_decision (o := p) hd he hf)

omit [Scalar α] [Estimator α C] in
/-- The announcement that ends a cycle is nothing forced, and sets no clock. -/
theorem announce_idle {before now : Status} {e : Event α} (he : e ∈ Mag.announce before now) :
    e.forcedBy = none ∧ ∀ b, e.rearms b = none := by
  rcases mem_announce he with rfl | rfl | rfl <;> exact ⟨rfl, fun _ => rfl⟩

end Decision

/-! ## Flights -/

section Flight

variable {α C : Type} [Scalar α] [FilterCore α C] {f : Flight α C}

theorem SetSince.step (hs : k.SetSince t f.arbiter.standing.health) (l : FlightStep α C)
    (hl : ∀ now, l.time? = some now → t ≤ now) :
    k.SetSince t (f.step l).arbiter.standing.health := by
  rcases f.health_step l with h | ⟨now, hnow, h⟩
  · rw [h]
    exact hs
  · exact hs.advanced h (hl now hnow)

theorem SetSince.after (hs : k.SetSince t f.arbiter.standing.health)
    (steps : List (FlightStep α C)) (hsteps : ∀ now ∈ steps.filterMap FlightStep.time?, t ≤ now) :
    k.SetSince t (f.after steps).arbiter.standing.health :=
  Flight.after_keeps (P := fun g => k.SetSince t g.arbiter.standing.health) steps
    (fun _ l hl hg => hg.step l fun now hnow =>
      hsteps now (List.mem_filterMap.mpr ⟨l, hl, hnow⟩)) hs

theorem setSince_cycle {clock : Clock} {h : Histories α}
    (hr : ∃ e ∈ (f.cycle clock h).events, e.rearms f.arbiter.standing.status = some k) :
    k.SetSince clock.now (f.step (.update clock h)).arbiter.standing.health := by
  obtain ⟨e, he, hr⟩ := hr
  rw [Flight.cycle, Arbiter.update_eq] at he
  have he := (List.mem_append.mp he).resolve_right fun ha => by
    rw [(announce_idle ha).2] at hr
    cases hr
  rw [Flight.standing_update]
  intro c hc
  exact ⟨clock.now, rearmed_settled (f.arbiter.context clock h) _ f.core ⟨e, he, hr⟩ c hc,
    Nat.le_refl _⟩

/-- A cycle within the limit of its clocks keeps a watchdog quiet. -/
theorem quiet_cycle {clock : Clock} (h : Histories α)
    (hs : k.SetSince t f.arbiter.standing.health) (ht : t ≤ clock.now)
    (soon : clock.now ≤ t + k.limit f.arbiter.settings.timeouts) :
    ∀ e ∈ (f.cycle clock h).events, e.forcedBy ≠ some k := by
  rw [Flight.cycle, Arbiter.update_eq]
  intro e he
  rcases List.mem_append.mp he with he | he
  · exact (quiet_settled (x := f.arbiter.context clock h) f.core hs ht soon).silent e he
  · rw [(announce_idle he).1]
    exact (Option.some_ne_none k).symm

/-- Forced actions are rate limited.  After a cycle that set the clocks of a watchdog, by the
action that the watchdog forces or by a start of its source, no cycle within its limit announces a
forced action, whatever happens between the two in times that never decrease. -/
theorem quiet_within_limit (f : Flight α C) (k : Watchdog) (clock clock' : Clock)
    (h h' : Histories α) (between : List (FlightStep α C))
    (ordered : (clock.now :: between.filterMap FlightStep.time? ++ [clock'.now]).Pairwise (· ≤ ·))
    (rearmed : ∃ e ∈ (f.cycle clock h).events,
      e.rearms f.arbiter.standing.status = some k)
    (soon : clock'.now ≤ clock.now + k.limit f.arbiter.settings.timeouts) :
    ∀ e ∈ (((f.step (.update clock h)).after between).cycle clock' h').events,
      e.forcedBy ≠ some k := by
  have later : ∀ now ∈ between.filterMap FlightStep.time? ++ [clock'.now], clock.now ≤ now :=
    (List.pairwise_cons.mp ordered).1
  have hs := (setSince_cycle rearmed).after between fun now hnow =>
    later now (List.mem_append_left _ hnow)
  refine quiet_cycle h' hs (later _ (List.mem_append_right _ (List.mem_singleton_self _))) ?_
  rw [Flight.settings_after, Flight.settings_step]
  exact soon

end Flight

/-- A height reset to the barometer, and then a drift that no sample corrects: the watchdog is
quiet up to its limit and denies a reset one microsecond past it. -/
theorem quiet_within_limit_drifting :
    let samples : Histories Float :=
      { Histories.empty with baro := History.pushAll (.empty 12) [⟨950000, 0.0⟩] }
    let f : Flight Float (GatedFilter Float) :=
      Flight.step ⟨.ofSettings .default, .ofSettings .default⟩ (.predict 900000 0.1 false)
    let reset : Clock := ⟨1000000, 900000⟩
    let drift : List (FlightStep Float (GatedFilter Float)) :=
      [.setInAir true, .predict 5000000 1000.0 false]
    let last : Clock := ⟨6000000, 5900000⟩
    let drifted := (f.step (.update reset samples)).after drift
    (reset.now :: drift.filterMap FlightStep.time? ++ [last.now]).Pairwise (· ≤ ·) ∧
      (∃ e ∈ (f.cycle reset samples).events,
        e.rearms f.arbiter.standing.status = some .height) ∧
      last.now ≤ reset.now + Watchdog.height.limit f.arbiter.settings.timeouts ∧
      (∀ e ∈ (drifted.cycle last samples).events, e.forcedBy ≠ some .height) ∧
      ∃ e ∈ (drifted.cycle ⟨6000001, 5900001⟩ samples).events, e.forcedBy = some .height := by
  intro samples f reset drift last drifted
  have ordered : (reset.now :: drift.filterMap FlightStep.time? ++ [last.now]).Pairwise
      (· ≤ ·) := by decide
  have rearmed : ∃ e ∈ (f.cycle reset samples).events,
      e.rearms f.arbiter.standing.status = some .height := by decide +kernel
  have soon : last.now ≤ reset.now + Watchdog.height.limit f.arbiter.settings.timeouts := by
    decide
  exact ⟨ordered, rearmed, soon,
    quiet_within_limit f .height reset last samples samples drift ordered rearmed soon,
    by decide +kernel⟩

end Watchdog

end NavArbiter

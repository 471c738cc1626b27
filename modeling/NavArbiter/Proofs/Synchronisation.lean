/-
# Starts of satellite navigation are synchronised

A start of satellite navigation resets position and velocity and sets their clocks, unless flow is
there to go on with.  Whether it is, the controller reads off the status before the cycle, and the
flow controller runs first.  So one start finds neither: flow was in use before the cycle and is
lost in it.

    flow before    flow in the cycle    position, velocity and their clocks
    not in use     any                  reset in the cycle
    in use         kept                 kept by flow
    in use         lost                 kept as they are, by nothing
-/
import NavArbiter.Proofs.FusionTimes
import NavArbiter.Proofs.Stages

namespace NavArbiter

variable {α C : Type} [Scalar α] [Estimator α C]

/-- The core granted both resets to satellite navigation, and the clocks show it. -/
structure Outcome.Synchronised (o : Outcome α C) (now : Time) : Prop where
  position : o.standing.health.lastPosition = some now
  velocity : o.standing.health.lastVelocity = some now
  positionReset : .position .gps true ∈ o.requests
  velocityReset : .velocity .gps true ∈ o.requests

section Decision

variable {x : Context α} {s : Standing α} {c : C} {o : Outcome α C}

/-- A start goes with flow in use before the cycle, or resets the core. -/
theorem synchronised_decision (h : Decision x s c o) (he : .gpsStarted ∈ o.events) :
    x.before.flow = true ∨ o.Synchronised x.clock.now := by
  cases h with
  | startGpsBesideFlow _ _ hf => exact Or.inl hf
  | startGps => exact Or.inr ⟨rfl, rfl, by simp, by simp⟩
  | _ => simp at he

theorem flowKept_decision (h : Decision x s c o) (hf : s.status.flow = true) :
    o.standing.status.flow = true ∨ (∃ anchor, .flowLost anchor ∈ o.events) ∨
      .flowDisabled ∈ o.events := by
  cases h with
  | loseFlow _ anchor => exact Or.inr (Or.inl ⟨anchor, List.mem_singleton_self _⟩)
  | disableFlow => exact Or.inr (Or.inr (List.mem_singleton_self _))
  | startFlow => exact Or.inl rfl
  | settleMag | enterThreeAxis => exact Or.inl ((decideStatus_flow _ _ _).trans hf)
  | _ => exact Or.inl hf

/-- What the decisions of a cycle have kept so far, whether satellite navigation started or not. -/
structure StartSoFar (x : Context α) (o : Outcome α C) : Prop where
  synchronised : .gpsStarted ∈ o.events → x.before.flow = true ∨ o.Synchronised x.clock.now
  flow : x.before.flow = true → o.standing.status.flow = true ∨
    (∃ anchor, .flowLost anchor ∈ o.events) ∨ .flowDisabled ∈ o.events

/-- What follows in the cycle leaves the requests and the clocks of a start in place. -/
theorem Outcome.Synchronised.more {o p : Outcome α C} (h : o.Synchronised x.clock.now)
    (hd : Decision x o.standing o.core p) :
    (o.andThen fun _ _ => p).Synchronised x.clock.now where
  position := ((advanced_decision hd).clock .position).elim (fun e => e.trans h.position) id
  velocity := ((advanced_decision hd).clock .velocity).elim (fun e => e.trans h.velocity) id
  positionReset := List.mem_append_left _ h.positionReset
  velocityReset := List.mem_append_left _ h.velocityReset

theorem StartSoFar.more {o p : Outcome α C} (h : StartSoFar x o)
    (hd : Decision x o.standing o.core p) : StartSoFar x (o.andThen fun _ _ => p) where
  synchronised he := by
    rcases List.mem_append.mp he with he | he
    · exact (h.synchronised he).imp_right fun hs => hs.more hd
    · refine (synchronised_decision hd he).imp_right fun hs => ?_
      exact ⟨hs.position, hs.velocity, List.mem_append_right _ hs.positionReset,
        List.mem_append_right _ hs.velocityReset⟩
  flow hb := by
    rcases h.flow hb with hf | ⟨anchor, he⟩ | he
    · rcases flowKept_decision hd hf with hf | ⟨anchor, he⟩ | he
      · exact Or.inl hf
      · exact Or.inr (Or.inl ⟨anchor, List.mem_append_right _ he⟩)
      · exact Or.inr (Or.inr (List.mem_append_right _ he))
    · exact Or.inr (Or.inl ⟨anchor, List.mem_append_left _ he⟩)
    · exact Or.inr (Or.inr (List.mem_append_left _ he))

theorem startSoFar_settled (c : C) (hx : s.status = x.before) :
    StartSoFar x (Arbiter.settled x s c) := by
  have start : StartSoFar x (.unchanged s c) :=
    ⟨fun h => absurd h List.not_mem_nil, fun h => Or.inl (hx ▸ h)⟩
  exact (Arbiter.settled_decisions x s c).keep start fun _ _ h hd => h.more hd

end Decision

/-! ## Runs -/

/-- Throughout every run of a new arbiter, a cycle that starts satellite navigation leaves flow in
use, or lost flow that was in use before it, or has set the clocks of position and velocity and
was granted a reset of both. -/
theorem synchronised_start {settings : Settings α} {a : Arbiter α}
    (h : Arbiter.new settings = .ok a) (calls : List (Call α C)) (clock : Clock)
    (histories : Histories α) (c : C) :
    let before := (a.after calls).standing.status
    let cycle := (a.after calls).update clock histories c
    let after := cycle.arbiter.standing
    .gpsStarted ∈ cycle.events →
      after.status.flow = true ∨
      (before.flow = true ∧ ∃ anchor, .flowLost anchor ∈ cycle.events) ∨
      (after.health.lastPosition = some clock.now ∧ after.health.lastVelocity = some clock.now ∧
        .position .gps true ∈ cycle.requests ∧ .velocity .gps true ∈ cycle.requests) := by
  intro before cycle after he
  have lawful : (a.after calls).IsLawful := by
    refine Arbiter.after_keeps (fun _ k hb => hb.call k) calls ?_
    rw [Arbiter.eq_ofSettings_of_new h]
    exact Lawful.initial _
  have hs := startSoFar_settled (x := (a.after calls).context clock histories) c
    (s := (a.after calls).standing) rfl
  have enabled : .flowDisabled ∉ cycle.events :=
    (not_disabled_call lawful (.update clock histories c)).2
  rcases hs.synchronised ((mem_update_events .gps rfl).mp he) with hb | hsync
  · rcases hs.flow hb with hf | ⟨anchor, hl⟩ | hd
    · refine Or.inl ?_
      simpa only [after, cycle, Arbiter.update_eq] using hf
    · exact Or.inr (Or.inl ⟨hb, anchor, (mem_update_events .flow rfl).mpr hl⟩)
    -- what is in use is allowed, so nothing is switched off
    · exact absurd ((mem_update_events .flow rfl).mpr hd) enabled
  · refine Or.inr (Or.inr ?_)
    simp only [after, cycle, Arbiter.update_eq]
    exact ⟨hsync.position, hsync.velocity, hsync.positionReset, hsync.velocityReset⟩

/-! ## With flow and without -/

/-- Flow is allowed, and vision may observe yaw. -/
def withFlow : Settings Float :=
  { Settings.default with allowed := { flow := true, visionYaw := true } }

/-- A vision sample and a distance at the horizon, a recent sample of flow, and fixes at these
times. -/
def seenFrom (fixes : List Time) : Histories Float :=
  { noSamples with
    vision := historyOf [⟨880000, .zero, .identity, 0.1, 0.1⟩]
    range := historyOf [⟨880000, 1.0⟩]
    flow := historyOf [⟨980000, .zero, .zero, 0.1, 200⟩]
    gps := fixesAt fixes }

/-- Without a terrain height flow does not start, and satellite navigation starts with resets. -/
theorem synchronised_start_alone :
    let core : GatedFilter Float := .levelled
    let calls : List (Call Float (GatedFilter Float)) :=
      [.update ⟨990000, 890000⟩ (seenFrom []) core]
    let a : Arbiter Float := .ofSettings withFlow
    let clock : Clock := ⟨1000000, 900000⟩
    let before := (a.after calls).standing.status
    let cycle := (a.after calls).update clock (seenFrom [950000]) core
    let after := cycle.arbiter.standing
    Arbiter.new withFlow = .ok a ∧ .gpsStarted ∈ cycle.events ∧
      (after.status.flow = true ∨
        (before.flow = true ∧ ∃ anchor, .flowLost anchor ∈ cycle.events) ∨
        (after.health.lastPosition = some clock.now ∧
          after.health.lastVelocity = some clock.now ∧
          .position .gps true ∈ cycle.requests ∧ .velocity .gps true ∈ cycle.requests)) ∧
      after.status.flow = false ∧ before.flow = false := by
  intro core calls a clock before cycle after
  have accepted : Arbiter.new withFlow = .ok a := rfl
  have started : .gpsStarted ∈ cycle.events :=
    Event.mem_of_name _ (fun _ => Event.eq_gpsStarted) (by decide +kernel)
  exact ⟨accepted, started,
    synchronised_start accepted calls clock (seenFrom [950000]) core started,
    by decide +kernel, by decide +kernel⟩

/-- Flow started on a terrain height and was not fused for more than five seconds.  In the cycle
that loses it satellite navigation starts, with nothing reset and no clock ever set. -/
theorem unsynchronised_start :
    let start : Flight Float (GatedFilter Float) := ⟨.ofSettings withFlow, .levelled⟩
    let level := start.step (.update ⟨990000, 890000⟩ (seenFrom []))
    let flowing := level.after
      [.fuse ⟨level.arbiter.standing.status, seenFrom [], 890000, 990000⟩,
        .update ⟨1000000, 900000⟩ (seenFrom [])]
    let cycle := flowing.cycle ⟨6200000, 6100000⟩ (seenFrom [6150000])
    let after := cycle.arbiter.standing
    Arbiter.new withFlow = .ok start.arbiter ∧ flowing.arbiter.standing.status.flow = true ∧
      .gpsStarted ∈ cycle.events ∧ after.status.flow = false ∧
      after.health.lastPosition = none ∧ after.health.lastVelocity = none ∧
      cycle.requests = [.declination] :=
  ⟨rfl, by decide +kernel, Event.mem_of_name _ (fun _ => Event.eq_gpsStarted) (by decide +kernel),
    by decide +kernel, by decide +kernel, by decide +kernel, by decide +kernel⟩

end NavArbiter

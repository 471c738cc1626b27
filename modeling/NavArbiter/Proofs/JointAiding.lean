/-
# Flow and satellite navigation together

Each of the two is given up only while the other is not in use:

    flow                    times out            unless satellite navigation is in use
    satellite navigation    times out, resets    unless flow is in use
    either                  starts               unless it is in use itself
    either                  is switched off      unless the settings allow it

Once both are in use no line of this table applies to the next cycle, and what is in use is allowed
(`Lawful`), so neither controller decides anything any more: both stay in use for good, however long
their sensors have been silent (`joint_aiding_absorbing`).
-/
import NavArbiter.Proofs.Synchronisation

namespace NavArbiter

variable {α C : Type} [Scalar α] [Estimator α C]

/-! ## Decisions -/

section Decision

variable {x : Context α} {s : Standing α} {c : C} {o : Outcome α C}

/-- With both in use, nothing is decided about either. -/
theorem joint_decision (hg : x.before.gps = true) (hf : x.before.flow = true)
    (hb : Lawful x.settings.allowed x.before) (h : Decision x s c o) :
    o.standing.status.gps = s.status.gps ∧ o.standing.status.flow = s.status.flow ∧
      ∀ e ∈ o.events, e.stage ≠ .flow ∧ e.stage ≠ .gps := by
  cases h with
  | startFlow _ _ hw => simp [Flow.wantsStart, hf] at hw
  | loseFlow _ _ _ hl => simp [Flow.isLost, hg] at hl
  | disableFlow _ ha => rw [(hb.flow hf).2] at ha; cases ha
  | startGpsBesideFlow _ hd | startGps _ hd | failGps _ _ hd => cases hd.unused.symm.trans hg
  | loseGps _ _ _ hn | recoverGps _ _ hn | failRecovery _ _ hn => cases hn.symm.trans hf
  | disableGps _ ha => rw [(hb.gps hg).2] at ha; cases ha
  | settleMag | enterThreeAxis =>
      exact ⟨decideStatus_gps _ _ _, decideStatus_flow _ _ _, List.forall_mem_nil _⟩
  | refreshDeclination | alignYaw | noteGround => exact ⟨rfl, rfl, List.forall_mem_nil _⟩
  | alignTilt =>
      exact ⟨rfl, rfl, List.forall_mem_singleton.mpr (Event.foreign (g := .tilt) rfl)⟩
  | startVisionPosition | refuseVisionPosition | startVisionYaw =>
      exact ⟨rfl, rfl, List.forall_mem_singleton.mpr (Event.foreign (g := .vision) rfl)⟩
  | suspectInertialFault | denyHeightReset | resetHeight | failHeightReset | selectPreferred =>
      exact ⟨rfl, rfl, List.forall_mem_singleton.mpr (Event.foreign (g := .height) rfl)⟩

/-- What the decisions of a cycle have kept so far. -/
structure JointSoFar (o : Outcome α C) : Prop where
  gps : o.standing.status.gps = true
  flow : o.standing.status.flow = true
  silent : ∀ e ∈ o.events, e.stage ≠ .flow ∧ e.stage ≠ .gps

theorem JointSoFar.more {o p : Outcome α C} (hg : x.before.gps = true)
    (hf : x.before.flow = true) (hb : Lawful x.settings.allowed x.before) (h : JointSoFar o)
    (hd : Decision x o.standing o.core p) : JointSoFar (o.andThen fun _ _ => p) := by
  obtain ⟨hgps, hflow, hsilent⟩ := joint_decision hg hf hb hd
  exact ⟨hgps.trans h.gps, hflow.trans h.flow,
    fun e he => (List.mem_append.mp he).elim (h.silent e) (hsilent e)⟩

end Decision

/-! ## Calls and runs -/

/-- An arbiter that lawfully uses both. -/
structure Arbiter.IsJoint (a : Arbiter α) : Prop where
  lawful : a.IsLawful
  gps : a.standing.status.gps = true
  flow : a.standing.status.flow = true

theorem jointSoFar_settled {a : Arbiter α} (h : a.IsJoint) (clock : Clock)
    (samples : Histories α) (c : C) :
    JointSoFar (Arbiter.settled (a.context clock samples) a.standing c) :=
  (Arbiter.settled_decisions (a.context clock samples) a.standing c).keep (P := JointSoFar)
    ⟨h.gps, h.flow, List.forall_mem_nil _⟩
    fun _ _ ho hd => ho.more (x := a.context clock samples) h.gps h.flow h.lawful hd

theorem Arbiter.IsJoint.call {a : Arbiter α} (h : a.IsJoint) (k : Call α C) :
    (a.call k).IsJoint := by
  have lawful := h.lawful.call k
  cases k with
  | update clock samples c =>
      have joint := jointSoFar_settled h clock samples c
      rw [Arbiter.call, Arbiter.update_eq] at lawful ⊢
      exact ⟨lawful, joint.gps, joint.flow⟩
  | setInAir _ => exact ⟨lawful, h.gps, h.flow⟩
  | writeHealth _ => exact ⟨lawful, h.gps, h.flow⟩

/-- Neither controller has anything to announce. -/
theorem Arbiter.IsJoint.eventsOf {a : Arbiter α} (h : a.IsJoint) (k : Call α C) :
    ∀ e ∈ a.eventsOf k, e.stage ≠ .flow ∧ e.stage ≠ .gps := by
  cases k with
  | update clock samples c =>
      rw [Arbiter.eventsOf, Arbiter.update_eq]
      intro e he
      rcases List.mem_append.mp he with he | he
      · exact (jointSoFar_settled h clock samples c).silent e he
      · exact Event.foreign (stage_of_mem_announce he)
  | setInAir | writeHealth => exact List.forall_mem_nil _

/-- Once flow and satellite navigation are both in use in a run, they stay in use, and neither
controller announces anything again: no loss, reset, failure or start, and no switching off. -/
theorem joint_aiding_absorbing {settings : Settings α} {a : Arbiter α}
    (h : Arbiter.new settings = .ok a) (calls later : List (Call α C)) :
    let b := a.after calls
    b.standing.status.gps = true → b.standing.status.flow = true →
      (b.after later).standing.status.gps = true ∧ (b.after later).standing.status.flow = true ∧
        ∀ e ∈ b.journal later, e.stage ≠ .flow ∧ e.stage ≠ .gps := by
  intro b hg hf
  have step : ∀ (d : Arbiter α) (k : Call α C), d.IsJoint → (d.call k).IsJoint :=
    fun _ k hd => hd.call k
  have lawful : b.IsLawful := by
    refine Arbiter.after_keeps (fun _ k hd => hd.call k) calls ?_
    rw [Arbiter.eq_ofSettings_of_new h]
    exact Lawful.initial _
  have joint : b.IsJoint := ⟨lawful, hg, hf⟩
  have kept := Arbiter.after_keeps step later joint
  refine ⟨kept.gps, kept.flow, fun e he => ?_⟩
  obtain ⟨d, k, hd, he⟩ := Arbiter.exists_of_mem_journal step joint he
  exact hd.eventsOf k e he

/-- Flow and satellite navigation start in the same cycle, and then their sensors fall silent for
an hour, in which a landing is reported and no fusion is noted. -/
theorem joint_aiding_absorbing_silence :
    let core : GatedFilter Float := .levelled
    let a : Arbiter Float := .ofSettings withFlow
    let calls : List (Call Float (GatedFilter Float)) :=
      [.update ⟨990000, 890000⟩ (seenFrom []) core,
        .writeHealth { Health.initial with lastTerrain := some 990000 },
        .update ⟨1000000, 900000⟩ (seenFrom [950000]) core]
    let later : List (Call Float (GatedFilter Float)) :=
      [.setInAir false, .writeHealth .initial,
        .update ⟨3600000000, 3599900000⟩ noSamples core]
    let b := a.after calls
    Arbiter.new withFlow = .ok a ∧ b.standing.status.gps = true ∧ b.standing.status.flow = true ∧
      (b.after later).standing.status.gps = true ∧ (b.after later).standing.status.flow = true ∧
      ∀ e ∈ b.journal later, e.stage ≠ .flow ∧ e.stage ≠ .gps := by
  intro core a calls later b
  have accepted : Arbiter.new withFlow = .ok a := rfl
  have gps : b.standing.status.gps = true := by decide +kernel
  have flow : b.standing.status.flow = true := by decide +kernel
  exact ⟨accepted, gps, flow, joint_aiding_absorbing accepted calls later gps flow⟩

end NavArbiter

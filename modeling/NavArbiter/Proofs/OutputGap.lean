/-
# Outputs keep up with the state

Outputs are buffered copies of earlier states.  When a cycle forces the state, the jump that is
logged moves them along, so that in exact arithmetic no gap opens between the two
(`outputs_follow`).  The invariant of the acts of a cycle is, for each component,

    component of the state − what waits in the log along it        stays
    outputs                                                        stay

and at the end what waits is added to the outputs.  It fails for the writes of velocity that log
nothing (`Overwritten`): velocity set to zero when flow or satellite navigation is lost, and the
horizontal velocity set from flow in the air.  There the outputs stay behind by the whole change of
the state (`unfollowed_loss`).  A start of flow on the ground sets the outputs anew.
-/
import NavArbiter.Proofs.CoreActions
import NavArbiter.Proofs.Exact
import NavArbiter.Proofs.Flight
import NavArbiter.Proofs.FilterActions
import NavArbiter.Proofs.JumpBudget

namespace NavArbiter

/-! ## Components of outputs and jumps -/

/-- The value of a component. -/
def OutputSample.get {α : Type} (o : OutputSample α) : Component → α
  | .velNorth => o.velocity.x
  | .velEast => o.velocity.y
  | .velDown => o.velocity.z
  | .posNorth => o.position.x
  | .posEast => o.position.y
  | .posDown => o.position.z

/-- The part of a jump along a component. -/
def Jump.along : Jump ℝ → Component → ℝ
  | .horizontalVelocity d, .velNorth => d.x
  | .horizontalVelocity d, .velEast => d.y
  | .verticalVelocity d, .velDown => d
  | .horizontalPosition d, .posNorth => d.x
  | .horizontalPosition d, .posEast => d.y
  | .verticalPosition d, .posDown => d
  | _, _ => 0

namespace Jump

theorem get_apply (j : Jump ℝ) (o : OutputSample ℝ) (k : Component) :
    (j.apply o).get k = o.get k + j.along k := by
  cases j <;> cases k <;> first | rfl | exact (add_zero _).symm

/-- Applied jumps move every output by their sum. -/
theorem exists_move (js : List (Jump ℝ)) : ∃ move : OutputSample ℝ → OutputSample ℝ,
    (∀ b, (applyAll js b).samples = b.samples.map move) ∧
      ∀ o k, (move o).get k = o.get k + (js.map fun j => j.along k).sum := by
  induction js with
  | nil => exact ⟨id, fun b => (List.map_id _).symm, fun o k => (add_zero _).symm⟩
  | cons j js ih =>
      obtain ⟨move, hsamples, hget⟩ := ih
      refine ⟨move ∘ j.apply, fun b => ?_, fun o k => ?_⟩
      · have rest : (applyAll (j :: js) b).samples = (b.samples.map j.apply).map move :=
          hsamples (j.applyToOutputs b)
        rw [rest, List.map_map]
      · show (move (j.apply o)).get k = _
        rw [hget, get_apply, List.map_cons, List.sum_cons, add_assoc]

end Jump

/-- A component of velocity. -/
def Component.isVelocity : Component → Bool
  | .velNorth | .velEast | .velDown => true
  | .posNorth | .posEast | .posDown => false

/-- The components that a cycle writes without logging a jump, by what it announces. -/
def Overwritten (before : Status) (es : List (Event ℝ)) (k : Component) : Prop :=
  k.isVelocity = true ∧ (∃ anchor, .flowLost anchor ∈ es ∨ .gpsLost anchor ∈ es) ∨
    (k = .velNorth ∨ k = .velEast) ∧ .flowStarted ∈ es ∧ before.gps = false

theorem Overwritten.mono {before : Status} {es fs : List (Event ℝ)} {k : Component}
    (h : Overwritten before es k) (hsub : es ⊆ fs) : Overwritten before fs k := by
  rcases h with ⟨hk, anchor, he⟩ | ⟨hk, he, hg⟩
  · exact Or.inl ⟨hk, anchor, he.imp (@hsub _) (@hsub _)⟩
  · exact Or.inr ⟨hk, hsub he, hg⟩

theorem Overwritten.of_append {before : Status} {es fs : List (Event ℝ)} {k : Component}
    (h : Overwritten before (es ++ fs) k) : Overwritten before es k ∨ Overwritten before fs k := by
  rcases h with ⟨hk, anchor, he | he⟩ | ⟨hk, he, hg⟩
  · rcases List.mem_append.mp he with he | he
    · exact Or.inl (Or.inl ⟨hk, anchor, Or.inl he⟩)
    · exact Or.inr (Or.inl ⟨hk, anchor, Or.inl he⟩)
  · rcases List.mem_append.mp he with he | he
    · exact Or.inl (Or.inl ⟨hk, anchor, Or.inr he⟩)
    · exact Or.inr (Or.inl ⟨hk, anchor, Or.inr he⟩)
  · rcases List.mem_append.mp he with he | he
    · exact Or.inl (Or.inr ⟨hk, he, hg⟩)
    · exact Or.inr (Or.inr ⟨hk, he, hg⟩)

/-! ## Acts on the core -/

namespace GatedFilter

/-- What waits in the log along a component. -/
def waiting (f : GatedFilter ℝ) (k : Component) : ℝ :=
  (f.jumps.pending.map fun j => j.along k).sum

/-- The outputs were left alone, and the state moved along a component by what was logged. -/
structure InStep (k : Component) (f f' : GatedFilter ℝ) : Prop where
  outputs : f'.outputs = f.outputs
  lead : f'.nav.get k - f'.waiting k = f.nav.get k - f.waiting k

variable {k : Component} {f f' f'' : GatedFilter ℝ}

namespace InStep

theorem refl (k : Component) (f : GatedFilter ℝ) : InStep k f f := ⟨rfl, rfl⟩

theorem trans (a : InStep k f f') (b : InStep k f' f'') : InStep k f f'' :=
  ⟨b.outputs.trans a.outputs, b.lead.trans a.lead⟩

/-- Nothing was logged, and the component is as it was. -/
theorem still (outputs : f'.outputs = f.outputs) (jumps : f'.jumps = f.jumps)
    (nav : f'.nav.get k = f.nav.get k) : InStep k f f' := by
  refine ⟨outputs, ?_⟩
  rw [waiting, jumps, nav]
  rfl

/-- A jump was logged, and the component moved along with it. -/
theorem jumped (j : Jump ℝ) (outputs : f'.outputs = f.outputs) (jumps : f'.jumps = f.jumps)
    (moved : f'.nav.get k = f.nav.get k + j.along k) : InStep k f (f'.recordJump j) := by
  refine ⟨outputs, ?_⟩
  have log : (f'.recordJump j).waiting k = f.waiting k + j.along k := by
    show ((f'.jumps.pending ++ [j]).map fun j => j.along k).sum = _
    rw [jumps, List.map_append, List.sum_append, List.map_singleton, List.sum_singleton]
    rfl
  have nav : (f'.recordJump j).nav.get k = f.nav.get k + j.along k := moved
  rw [log, nav, add_sub_add_right_eq_sub]

end InStep

/-- What a reset writes along a component is what it logs along it. -/
theorem inStep_resetAct {samples : Histories ℝ} (k : Component) (act : ResetAct samples f f') :
    InStep k f f' := by
  cases act with
  | moveTo p _ =>
      refine .jumped (.horizontalPosition (p.sub f.nav.position.horizontal)) rfl rfl ?_
      cases k with
      | posNorth => exact (add_sub_cancel f.nav.position.x p.x).symm
      | posEast => exact (add_sub_cancel f.nav.position.y p.y).symm
      | _ => exact (add_zero _).symm
  | setSpeed v _ =>
      refine .jumped (.horizontalVelocity (v.sub f.nav.velocity.horizontal)) rfl rfl ?_
      cases k with
      | velNorth => exact (add_sub_cancel f.nav.velocity.x v.x).symm
      | velEast => exact (add_sub_cancel f.nav.velocity.y v.y).symm
      | _ => exact (add_zero _).symm
  | moveDownTo down _ =>
      refine .jumped (.verticalPosition (down - f.nav.position.z)) rfl rfl ?_
      cases k with
      | posDown => exact (add_sub_cancel f.nav.position.z down).symm
      | _ => exact (add_zero _).symm
  | setDescent speed _ =>
      refine .jumped (.verticalVelocity (speed - f.nav.velocity.z)) rfl rfl ?_
      cases k with
      | velDown => exact (add_sub_cancel f.nav.velocity.z speed).symm
      | _ => exact (add_zero _).symm
  | turn _ rotation =>
      refine .jumped (.attitude rotation) rfl rfl ?_
      cases k <;> exact (add_zero _).symm

theorem inStep_resets {samples : Histories ℝ} (k : Component) (acts : ResetActs samples f f') :
    InStep k f f' :=
  kept_of_acts (P := InStep k f) acts (fun h act => h.trans (inStep_resetAct k act)) (.refl k f)

theorem inStep_refreshDeclination (k : Component) (f : GatedFilter ℝ) :
    InStep k f f.refreshDeclination := by
  obtain ⟨_, refreshed⟩ := f.refreshDeclination_frame
  rw [refreshed]
  exact .still rfl rfl rfl

/-- An act of a cycle that does not set the outputs anew moves the state along a component by what
it logs, or announces that it writes it. -/
theorem inStep_act {x : Context ℝ} {es : List (Event ℝ)} (act : CoreAct x es f f')
    (aloft : ¬GroundStart x.before es) (hk : ¬Overwritten x.before es k) : InStep k f f' := by
  cases act with
  | refreshDeclination => exact inStep_refreshDeclination k f
  | resetPosition source => exact inStep_resets k (f.resetPosition_acts source x.histories)
  | resetVelocity source => exact inStep_resets k (f.resetVelocity_acts source x.histories)
  | resetHeight source => exact inStep_resets k (f.resetHeight_acts source x.histories)
  | resetHeading field => exact inStep_resets k (f.resetHeading_acts field x.histories)
  | turnTo =>
      refine .jumped (.attitude _) rfl rfl ?_
      cases k <;> exact (add_zero _).symm
  | stop he =>
      refine .still rfl rfl ?_
      cases k with
      | velNorth | velEast | velDown => exact absurd (Or.inl ⟨rfl, _, he⟩) hk
      | posNorth | posEast | posDown => rfl
  | seedVelocity w he hg _ =>
      refine .still rfl rfl ?_
      cases k with
      | velNorth => exact absurd (Or.inr ⟨Or.inl rfl, he, hg⟩) hk
      | velEast => exact absurd (Or.inr ⟨Or.inr rfl, he, hg⟩) hk
      | velDown | posNorth | posEast | posDown => rfl
  | seedOrigin w he hg ha => exact absurd ⟨he, hg, ha⟩ aloft

theorem inStep_acts {x : Context ℝ} {es : List (Event ℝ)} (acts : CoreActs x es f f')
    (aloft : ¬GroundStart x.before es) (hk : ¬Overwritten x.before es k) : InStep k f f' :=
  kept_of_acts (P := InStep k f) acts (fun h act => h.trans (inStep_act act aloft hk))
    (.refl k f)

end GatedFilter

/-! ## The cycle -/

/-- A cycle moves the outputs along a component by what it moves the state, and by what waited
before. -/
theorem outputs_follow_update (a : Arbiter ℝ) (clock : Clock) (samples : Histories ℝ)
    (f : GatedFilter ℝ) :
    let cycle := a.update clock samples f
    ¬GroundStart a.standing.status cycle.events →
      List.Forall₂ (fun o o' => ∀ k, ¬Overwritten a.standing.status cycle.events k →
          o'.get k - o.get k = cycle.core.nav.get k - f.nav.get k + f.waiting k)
        f.outputs.samples cycle.core.outputs.samples := by
  intro cycle aloft
  let x := a.context clock samples
  let o := Arbiter.settled x a.standing f
  have acts : CoreActs x o.events f o.core := Arbiter.settled_acts x a.standing f
  have hcore : cycle.core = Estimator.applyJumps o.core :=
    congrArg Cycle.core (Arbiter.update_eq a clock samples f)
  have hsub : o.events ⊆ cycle.events := by
    have hevents := congrArg Cycle.events (Arbiter.update_eq a clock samples f)
    rw [hevents]
    exact List.subset_append_left _ _
  have aloft' : ¬GroundStart x.before o.events := fun hg => aloft ⟨hsub hg.1, hg.2⟩
  obtain ⟨move, hsamples, hmove⟩ := Jump.exists_move o.core.jumps.pending
  have hout : cycle.core.outputs.samples = f.outputs.samples.map move := by
    rw [hcore]
    show (Jump.applyAll o.core.jumps.pending o.core.outputs).samples = _
    -- that the outputs were left alone is seen along any component that is never overwritten
    rw [hsamples, (GatedFilter.inStep_acts (k := .posDown) acts aloft' ?_).outputs]
    rintro (⟨hk, -⟩ | ⟨hk | hk, -⟩) <;> cases hk
  rw [hout, List.forall₂_map_right_iff, List.forall₂_same]
  intro s _ k hk
  have hstep := GatedFilter.inStep_acts (k := k) acts aloft' fun h => hk (h.mono hsub)
  have hnav : cycle.core.nav = o.core.nav := by rw [hcore]; rfl
  have hlead := hstep.lead
  have hwait : (move s).get k = s.get k + o.core.waiting k := hmove s k
  rw [hwait, hnav]
  linarith

/-! ## Between cycles

Predictions and fusions log nothing, so at the start of a cycle nothing waits. -/

theorem FusionAct.jumps {α : Type} [Scalar α] {samples : Histories α} {f f' : GatedFilter α}
    (act : FusionAct samples f f') : f'.jumps = f.jumps := by
  cases act with
  | consume => rfl
  | correct k measured =>
      unfold GatedFilter.correct
      dsimp only
      split <;> rfl
  | recordVerdict => rfl
  | measureTerrain => rfl

theorem GatedFilter.jumps_fuseActive {α : Type} [Scalar α] (f : GatedFilter α) (health : Health)
    (i : FusionInput α) : (f.fuseActive health i).core.jumps = f.jumps :=
  kept_of_acts (P := fun g => g.jumps = f.jumps) (f.fuseActive_acts health i)
    (fun h act => act.jumps.trans h) rfl

/-! ## Flights -/

namespace Flight

variable {f : Flight ℝ (GatedFilter ℝ)}

theorem pending_step (h : f.core.jumps.pending = []) (k : FlightStep ℝ (GatedFilter ℝ))
    (hk : ∀ change, k = .adjust change → ∀ c, (change c).jumps = c.jumps) :
    (f.step k).core.jumps.pending = [] := by
  cases k with
  | update clock samples =>
      show (f.cycle clock samples).core.jumps.pending = []
      rw [cycle, Arbiter.update_eq]
      rfl
  | setInAir _ => exact h
  | predict _ _ _ => exact h
  | fuse input =>
      show (f.core.fuseActive f.arbiter.standing.health input).core.jumps.pending = []
      rw [GatedFilter.jumps_fuseActive]
      exact h
  | adjust change =>
      show (change f.core).jumps.pending = []
      rw [hk change rfl]
      exact h

theorem pending_after (h : f.core.jumps.pending = [])
    (steps : List (FlightStep ℝ (GatedFilter ℝ)))
    (quiet : ∀ change, .adjust change ∈ steps → ∀ c, (change c).jumps = c.jumps) :
    (f.after steps).core.jumps.pending = [] := by
  refine after_keeps (P := fun g => g.core.jumps.pending = []) steps ?_ h
  intro g k hk hg
  refine pending_step hg k ?_
  rintro change rfl
  exact quiet change hk

/-- In a cycle of a flight from new that does not start flow on the ground, every output moves along
each component by what the state moves, except along the components of velocity that the cycle
announces to write unlogged: positions are always followed, vertical velocity up to a loss of flow
or satellite navigation, and horizontal velocity up to a loss or a start of flow without
satellite navigation. -/
theorem outputs_follow (settings : Settings ℝ) (a : Arbiter ℝ)
    (steps : List (FlightStep ℝ (GatedFilter ℝ)))
    (quiet : ∀ change, .adjust change ∈ steps → ∀ c, (change c).jumps = c.jumps)
    (clock : Clock) (samples : Histories ℝ) :
    let f : Flight ℝ (GatedFilter ℝ) := Flight.after ⟨a, .ofSettings settings⟩ steps
    let cycle := f.cycle clock samples
    let before := f.arbiter.standing.status
    ¬(.flowStarted ∈ cycle.events ∧ before.gps = false ∧ before.inAir = false) →
      List.Forall₂ (fun o o' => ∀ k, ¬Overwritten before cycle.events k →
          o'.get k - o.get k = cycle.core.nav.get k - f.core.nav.get k)
        f.core.outputs.samples cycle.core.outputs.samples := by
  intro f cycle before aloft
  have pending : f.core.jumps.pending = [] := pending_after rfl steps quiet
  have follow := outputs_follow_update f.arbiter clock samples f.core aloft
  refine follow.imp fun o o' h k hk => ?_
  have waiting : f.core.waiting k = 0 := by
    show (f.core.jumps.pending.map fun j => j.along k).sum = 0
    rw [pending]
    rfl
  rw [h k hk, waiting, add_zero]
  rfl

end Flight

/-! ## In the air without aiding, and on a loss -/

section Announced

variable {C : Type} [Estimator ℝ C] {x : Context ℝ} {s : Standing ℝ} {c : C} {o : Outcome ℝ C}

/-- What is lost was in use before the cycle, and flow starts where it is allowed. -/
theorem overwritten_decision (h : Decision x s c o) {k : Component}
    (hk : Overwritten x.before o.events k) :
    x.before.flow = true ∨ x.before.gps = true ∨ x.settings.allowed.flow = true := by
  cases h with
  | loseFlow _ _ _ hlost =>
      simp only [Flow.isLost, Bool.and_eq_true] at hlost
      exact Or.inl hlost.1.1
  | loseGps _ _ hb => exact Or.inr (Or.inl hb)
  | startFlow _ ha => exact Or.inr (Or.inr ha)
  | _ => simp [Overwritten] at hk

theorem overwritten_update (a : Arbiter ℝ) (clock : Clock) (samples : Histories ℝ) (c : C)
    {k : Component} (hk : Overwritten a.standing.status (a.update clock samples c).events k) :
    a.standing.status.flow = true ∨ a.standing.status.gps = true ∨
      a.settings.allowed.flow = true := by
  let x := a.context clock samples
  have settled : ∀ {o : Outcome ℝ C}, Decisions x a.standing c o →
      Overwritten x.before o.events k →
        x.before.flow = true ∨ x.before.gps = true ∨ x.settings.allowed.flow = true := by
    intro o ho
    induction ho with
    | none =>
        intro hk
        simp [Overwritten, Outcome.unchanged] at hk
    | more _ hd ih =>
        intro hk
        rcases hk.of_append with hk | hk
        · exact ih hk
        · exact overwritten_decision hd hk
  rw [Arbiter.update_eq] at hk
  rcases hk.of_append with hk | hk
  · exact settled (Arbiter.settled_decisions x a.standing c) hk
  · simp [Overwritten, Mag.announce] at hk

end Announced

/-- In the air, aided by nothing and with flow not allowed, every component of every output moves
with the state when a first height comes in. -/
theorem outputs_follow_unaided :
    let f : Flight ℝ (GatedFilter ℝ) :=
      Flight.after ⟨.ofSettings .default, .ofSettings .default⟩
        [.setInAir true, .predict 900000 1 false, .predict 1000000 1 false]
    let samples := { Histories.empty with baro := historyOf [⟨950000, 12⟩] }
    let cycle := f.cycle ⟨1010000, 960000⟩ samples
    f.core.outputs.samples.length = 2 ∧
      List.Forall₂ (fun o o' => ∀ k, o'.get k - o.get k = cycle.core.nav.get k - f.core.nav.get k)
        f.core.outputs.samples cycle.core.outputs.samples := by
  intro f samples cycle
  have follow := Flight.outputs_follow .default (.ofSettings .default)
    [.setInAir true, .predict 900000 1 false, .predict 1000000 1 false] (by simp)
    ⟨1010000, 960000⟩ samples fun h => Bool.noConfusion h.2.2
  refine ⟨rfl, follow.imp fun o o' h k => h k fun hk => ?_⟩
  rcases overwritten_update _ _ _ _ hk with h | h | h <;> cases h

/-- A fix that moves north, and a pose, each at its time if it has one. -/
def movingNorth (vision gps : Option Time) : Histories Float :=
  { noSamples with
    vision := historyOf (vision.toList.map fun t => ⟨t, .zero, .identity, 0.1, 0.1⟩)
    gps := historyOf (gps.toList.map fun t => ⟨t, .zero, 0.0, ⟨3.0, 0.0, 0.0⟩, 1.0, 1.0, 0.5⟩) }

/-- When satellite navigation is lost the state is stopped, and the outputs keep their velocity. -/
theorem unfollowed_loss :
    let settings : Settings Float := { Settings.default with allowed := { visionYaw := true } }
    let f : Flight Float (GatedFilter Float) := Flight.after ⟨.ofSettings settings, .levelled⟩
      [.update ⟨980000, 900000⟩ (movingNorth (some 900000) none),
        .update ⟨990000, 910000⟩ (movingNorth (some 900000) none),
        .update ⟨1000000, 920000⟩ (movingNorth (some 900000) (some 950000)),
        .predict 1010000 0.5 false]
    let lost := f.cycle ⟨12000000, 11900000⟩ (movingNorth none (some 950000))
    "gps_lost" ∈ lost.events.map Event.name ∧ f.arbiter.standing.status.flow = false ∧
      f.core.nav.velocity.x = 3.0 ∧ lost.core.nav.velocity.x = 0.0 ∧
      f.core.outputs.samples.map (fun o => o.velocity.x) = [3.0] ∧
      lost.core.outputs.samples.map (fun o => o.velocity.x) = [3.0] := by
  refine ⟨?_, ?_, ?_, ?_, ?_, ?_⟩ <;> decide +kernel

end NavArbiter

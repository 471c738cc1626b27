/-
# The hold point

When flow or satellite navigation is lost the core is stopped, and where it stands becomes the
anchor.  Other controllers run in the same cycle, before and after, and some of them move the core:

    before a loss    vision takes position over, flow starts, yaw is aligned
    after a loss     satellite navigation starts, height is reset, yaw is aligned

What comes before does no harm, because the anchor is read off when the loss is decided.  What comes
after moves nothing in the plane (`Unmoved`): flow is only lost while satellite navigation was not
in use and flow was, and beside flow satellite navigation starts without resets; a height reset
writes the vertical axis alone.  For the same reason flow and satellite navigation are never lost in
the same cycle.  So a cycle leaves the anchor, the core and the announcement in agreement
(`hold_point`).
-/
import NavArbiter.Proofs.Flight
import NavArbiter.Proofs.Stages

namespace NavArbiter

variable {α : Type}

/-! ## Losses -/

/-- Where a source was lost, if the event says that one was. -/
def Event.lostAt? : Event α → Option (Vec2 α)
  | .flowLost anchor => some anchor
  | .gpsLost anchor => some anchor
  | _ => none

/-- Only flow and satellite navigation are ever lost. -/
theorem Event.lostAt?_eq_none {e : Event α} (h : e.stage ≠ .flow ∧ e.stage ≠ .gps) :
    e.lostAt? = none := by
  cases e with
  | flowLost => exact absurd rfl h.1
  | gpsLost => exact absurd rfl h.2
  | _ => rfl

/-- The places at which sources were lost. -/
def Event.losses (es : List (Event α)) : List (Vec2 α) := es.filterMap Event.lostAt?

theorem Event.losses_append (es fs : List (Event α)) : losses (es ++ fs) = losses es ++ losses fs :=
  List.filterMap_append

theorem Outcome.IsOf.losses {C : Type} {g : Stage} {o : Outcome α C} (h : o.IsOf g)
    (hf : g ≠ .flow := by decide) (hg : g ≠ .gps := by decide) : Event.losses o.events = [] :=
  List.filterMap_eq_nil_iff.mpr fun e he => Event.lostAt?_eq_none (Event.foreign (h e he) hf hg)

theorem Outcome.losses_andThen {C : Type} (o : Outcome α C)
    (next : Standing α → C → Outcome α C) : Event.losses (o.andThen next).events =
      Event.losses o.events ++ Event.losses (next o.standing o.core).events :=
  Event.losses_append _ _

/-- Stages that lose nothing lose nothing together. -/
theorem Outcome.no_losses_andThen {C : Type} {o : Outcome α C}
    {next : Standing α → C → Outcome α C} (h : Event.losses o.events = [])
    (hnext : Event.losses (next o.standing o.core).events = []) :
    Event.losses (o.andThen next).events = [] := by
  rw [losses_andThen, h, hnext, List.append_nil]

section Anchor

variable {C : Type} [Scalar α] [Estimator α C] {x : Context α} {s : Standing α} {c : C}
  {o : Outcome α C}

theorem anchor_decision (h : Decision x s c o) (hl : Event.losses o.events = []) :
    o.standing.anchor = s.anchor := by
  cases h with
  | loseFlow | loseGps => cases hl
  | _ => rfl

/-- Unless something is lost, the anchor is kept. -/
theorem anchor_decisions (h : Decisions x s c o) (hl : Event.losses o.events = []) :
    o.standing.anchor = s.anchor := by
  refine h.keep (P := fun o => Event.losses o.events = [] → o.standing.anchor = s.anchor)
    (fun _ => rfl) (fun o p ho hd hl => ?_) hl
  rw [Outcome.losses_andThen, List.append_eq_nil_iff] at hl
  obtain ⟨hfirst, hrest⟩ := hl
  exact (anchor_decision hd hrest).trans (ho hfirst)

end Anchor

variable [Scalar α]

/-! ## What moves nothing in the plane -/

namespace GatedFilter

/-- The filter stands where another did in the plane, with the same velocity there. -/
structure Unmoved (f f' : GatedFilter α) : Prop where
  position : f'.nav.position.horizontal = f.nav.position.horizontal
  velocity : f'.nav.velocity.horizontal = f.nav.velocity.horizontal

omit [Scalar α] in
theorem Unmoved.refl (f : GatedFilter α) : Unmoved f f := ⟨rfl, rfl⟩

variable (f : GatedFilter α) (x : Context α) (s : Standing α)

/-- A height reset writes vertical position, and with satellite height vertical velocity. -/
theorem unmoved_resetHeight (source : HeightSource) (samples : Histories α) :
    Unmoved f (f.resetHeight source samples).2 := by
  unfold resetHeight
  split
  · exact .refl f
  · dsimp only
    split <;> exact ⟨rfl, rfl⟩

theorem unmoved_resetHeading (field : Vec3 α) : Unmoved f (f.resetHeading field).2 := by
  unfold resetHeading
  split
  · exact .refl f
  · exact ⟨rfl, rfl⟩

theorem unmoved_askHeadingFromMag (samples : Histories α) :
    Unmoved f (Estimator.askHeadingFromMag f samples).core := by
  unfold Estimator.askHeadingFromMag
  split
  · next m _ => exact f.unmoved_resetHeading m.field
  · exact .refl f

theorem unmoved_ofMag : Unmoved f (Alignment.ofMag x s f).core := by
  unfold Alignment.ofMag
  split
  · exact .refl f
  · exact f.unmoved_askHeadingFromMag x.histories

theorem unmoved_height : Unmoved f (Height.control x s f).core := by
  have inertial : ∀ s, (Height.watchInertial x s f).core = f := by
    intro s
    unfold Height.watchInertial
    split <;> rfl
  have timeout : ∀ s, Unmoved f (Height.watchTimeout x s f).core := by
    intro s
    unfold Height.watchTimeout Height.resetTo
    dsimp only
    split
    · split
      · exact .refl f
      · next target _ =>
        have reset : Unmoved f (Estimator.askHeight f target x.histories).core :=
          f.unmoved_resetHeight target x.histories
        split <;> exact reset
    · exact .refl f
  have preferred : ∀ s (g : GatedFilter α), (Height.selectPreferred x s g).core = g := by
    intro s g
    unfold Height.selectPreferred
    dsimp only
    split <;> rfl
  have ground : ∀ s (g : GatedFilter α), (Height.noteGround x s g).core = g := by
    intro s g
    unfold Height.noteGround
    split <;> rfl
  unfold Height.control
  simp only [Outcome.andThen, ground, preferred, inertial]
  exact timeout _

theorem unmoved_settle : Unmoved f (Mag.settle x s f).core := by
  unfold Mag.settle Mag.enter
  dsimp only
  split
  · exact .refl f
  · split
    · exact f.unmoved_askHeadingFromMag x.histories
    · exact .refl f

/-- Beside flow satellite navigation starts without moving the core. -/
theorem unmoved_gps (hg : x.before.gps = false) (hf : x.before.flow = true) :
    Unmoved f (Gps.control x s f).core := by
  have start : Unmoved f (Gps.start x s f).core := by
    have aligned := f.unmoved_ofMag x s
    unfold Gps.start Gps.activate
    simp only [hf, if_true]
    split <;> exact aligned
  unfold Gps.control
  simp only [hg, Bool.false_eq_true, if_false]
  split
  · split
    · exact start
    · exact .refl f
  · exact .refl f

end GatedFilter

/-! ## The cycle -/

/-- One source was lost, and the core stands still at the anchor. -/
structure Outcome.HoldsAt (p : Vec2 α) (o : Outcome α (GatedFilter α)) : Prop where
  losses : Event.losses o.events = [p]
  anchor : o.standing.anchor = p
  position : o.core.nav.position.horizontal = p
  velocity : o.core.nav.velocity.horizontal = .zero

namespace Outcome

variable {x : Context α} {p : Vec2 α} {o : Outcome α (GatedFilter α)}
  {next : Standing α → GatedFilter α → Outcome α (GatedFilter α)}

/-- What came before a loss does not matter. -/
theorem HoldsAt.after (h : Event.losses o.events = [])
    (hnext : (next o.standing o.core).HoldsAt p) : (o.andThen next).HoldsAt p := by
  refine ⟨?_, hnext.anchor, hnext.position, hnext.velocity⟩
  rw [losses_andThen, h, hnext.losses, List.nil_append]

/-- The hold point survives a stage that loses nothing and does not move the core. -/
theorem HoldsAt.andThen (h : o.HoldsAt p)
    (decided : Decisions x o.standing o.core (next o.standing o.core))
    (nothing : Event.losses (next o.standing o.core).events = [])
    (unmoved : GatedFilter.Unmoved o.core (next o.standing o.core).core) :
    (o.andThen next).HoldsAt p := by
  refine ⟨?_, ?_, unmoved.position.trans h.position, unmoved.velocity.trans h.velocity⟩
  · rw [losses_andThen, h.losses, nothing, List.append_nil]
  · exact (anchor_decisions decided nothing).trans h.anchor

end Outcome

section Stages

variable (x : Context α) (s : Standing α) (f : GatedFilter α)

/-- Flow is lost only if it was all that was in use. -/
theorem flow_losses : Event.losses (Flow.control x s f).events = [] ∨
    x.before.gps = false ∧ x.before.flow = true ∧ ∃ p, (Flow.control x s f).HoldsAt p := by
  unfold Flow.control Flow.start
  dsimp only
  split
  · split
    · split <;> exact Or.inl rfl
    · split
      · next hl =>
        simp only [Flow.isLost, Bool.and_eq_true, Bool.not_eq_true'] at hl
        exact Or.inr ⟨hl.1.2, hl.1.1, _, rfl, rfl, rfl, rfl⟩
      · exact Or.inl rfl
  · split <;> exact Or.inl rfl

/-- Satellite navigation is lost only if it was in use. -/
theorem gps_losses : Event.losses (Gps.control x s f).events = [] ∨
    x.before.gps = true ∧ ∃ p, (Gps.control x s f).HoldsAt p := by
  unfold Gps.control Gps.start Gps.activate Gps.recover
  dsimp only
  split
  · split
    · next hb =>
      split
      · split
        · split <;> exact Or.inl rfl
        · exact Or.inr ⟨hb, _, rfl, rfl, rfl, rfl⟩
      · exact Or.inl rfl
    · split
      · split
        · refine Or.inl ?_
          simp only [Outcome.andThen, List.nil_append]
          split
          · rfl
          · split <;> rfl
        · exact Or.inl rfl
      · exact Or.inl rfl
  · split <;> exact Or.inl rfl

omit [Scalar α] in
theorem losses_announce (before now : Status) :
    Event.losses (Mag.announce before now : List (Event α)) = [] :=
  List.filterMap_eq_nil_iff.mpr fun _ he =>
    Event.lostAt?_eq_none (Event.foreign (stage_of_mem_announce he))

/-- A cycle up to its last announcement loses nothing, or one source, and then leaves a core that
stands still at the anchor. -/
theorem settled_losses : Event.losses (Arbiter.settled x s f).events = [] ∨
    ∃ p, (Arbiter.settled x s f).HoldsAt p := by
  let first := ((Arbiter.refreshDeclination s f).andThen (Arbiter.watchTilt x)).andThen
    (Vision.control x)
  let flow := first.andThen (Flow.control x)
  let gps := flow.andThen (Gps.control x)
  -- after satellite navigation nothing is lost any more, and nothing moves
  have later : ∀ p, gps.HoldsAt p → (Arbiter.settled x s f).HoldsAt p := by
    intro p h
    have height : (gps.andThen (Height.control x)).HoldsAt p :=
      h.andThen (height_decisions x _ _) (height_isOf x _ _).losses
        (GatedFilter.unmoved_height _ x _)
    exact height.andThen (settle_decisions x _ _) (settle_isOf x _ _).losses
      (GatedFilter.unmoved_settle _ x _)
  have none_first : Event.losses first.events = [] := by
    have tilt : Event.losses
        ((Arbiter.refreshDeclination s f).andThen (Arbiter.watchTilt x)).events = [] :=
      Outcome.no_losses_andThen rfl (watchTilt_isOf x _ _).losses
    exact Outcome.no_losses_andThen tilt (vision_isOf x _ _).losses
  rcases flow_losses x first.standing first.core with hflow | ⟨hg, hf, p, hp⟩
  · have none_flow : Event.losses flow.events = [] := Outcome.no_losses_andThen none_first hflow
    rcases gps_losses x flow.standing flow.core with hgps | ⟨-, p, hp⟩
    · have none_gps : Event.losses gps.events = [] := Outcome.no_losses_andThen none_flow hgps
      have none_height : Event.losses (gps.andThen (Height.control x)).events = [] :=
        Outcome.no_losses_andThen none_gps (height_isOf x _ _).losses
      exact Or.inl (Outcome.no_losses_andThen none_height (settle_isOf x _ _).losses)
    · exact Or.inr ⟨p, later p (.after none_flow hp)⟩
  -- flow was lost, so satellite navigation was not in use before and cannot be lost as well
  · refine Or.inr ⟨p, later p ?_⟩
    have lost : flow.HoldsAt p := .after none_first hp
    have kept : Event.losses (Gps.control x flow.standing flow.core).events = [] :=
      (gps_losses x flow.standing flow.core).resolve_right fun h => by
        rw [hg] at h
        cases h.1
    exact lost.andThen (gps_decisions x _ _) kept (GatedFilter.unmoved_gps _ x _ hg hf)

end Stages

/-- In a cycle at most one source is lost.  Then the anchor is the place announced, and there the
core stands still, whatever the controllers before and after did; otherwise the anchor is kept. -/
theorem hold_point (a : Arbiter α) (clock : Clock) (samples : Histories α) (f : GatedFilter α) :
    let cycle := a.update clock samples f
    let losses := Event.losses cycle.events
    (losses = [] ∧ cycle.arbiter.standing.anchor = a.standing.anchor) ∨
    ∃ p, losses = [p] ∧ cycle.arbiter.standing.anchor = p ∧
      cycle.core.nav.position.horizontal = p ∧ cycle.core.nav.velocity.horizontal = .zero := by
  intro cycle losses
  let x := a.context clock samples
  let o := Arbiter.settled x a.standing f
  have update : cycle = ⟨⟨a.settings, o.standing, a.standing.status⟩,
      Estimator.applyJumps o.core, o.events ++ Mag.announce x.before o.standing.status,
      o.requests⟩ := Arbiter.update_eq a clock samples f
  have announced : losses = Event.losses o.events := calc
    losses = Event.losses (o.events ++ Mag.announce x.before o.standing.status) :=
      congrArg (fun c => Event.losses c.events) update
    _ = Event.losses o.events ++ Event.losses (Mag.announce x.before o.standing.status) :=
      Event.losses_append _ _
    _ = Event.losses o.events := by rw [losses_announce, List.append_nil]
  rw [announced, update]
  rcases settled_losses x a.standing f with hnone | ⟨p, hp⟩
  · exact Or.inl ⟨hnone, anchor_decisions (Arbiter.settled_decisions x a.standing f) hnone⟩
  · exact Or.inr ⟨p, hp.losses, hp.anchor, hp.position, hp.velocity⟩

/-- Satellite navigation starts in the very cycle in which flow is lost. -/
example :
    let status : Status :=
      { Status.initial with flow := true, tiltAligned := true, yawAligned := true }
    let a : Arbiter Float :=
      ⟨{ Settings.default with allowed := { flow := true } },
        { Standing.initial with status := status }, status⟩
    let samples : Histories Float := { noSamples with gps := fixesAt [9950000] }
    let cycle := a.update ⟨10000000, 9900000⟩ samples (.levelled : GatedFilter Float)
    (Event.losses cycle.events).length = 1 ∧ cycle.arbiter.standing.status.flow = false ∧
      cycle.arbiter.standing.status.gps = true := by
  decide +kernel

end NavArbiter

/-
# Resets on recent data

Nothing is reset to a source that has not delivered lately.  Resets of position, velocity and
height are asked for in four places, each of which has looked at the newest sample of the history
that the core will reset itself from:

    asked for when                     source                   newest sample younger than
    vision takes position over         vision                   two intervals
    satellite navigation starts        satellite navigation     the age limit of fixes
    satellite navigation times out     satellite navigation     the age limit of fixes
    height times out                   the one that is chosen   two intervals

The last line rests on the choice: whatever `Height.choose` names is fresh (`fresh_of_choose`).

A core may refuse what it is asked all the same.  The filter core does so only for want of a sample
(`GatedFilter.resetPosition_granted` and those after it), so under it no refusal is ever reported.
-/
import NavArbiter.Proofs.Alignment
import NavArbiter.Proofs.Flight
import NavArbiter.Proofs.Stages

namespace NavArbiter

/-- There is a newest sample and it is younger than `maxAge`. -/
def History.Recent {β : Type} [Timed β] (b : History β) (now : Time) (maxAge : Nat) : Prop :=
  ∃ w, b.newest? = some w ∧ Time.age now (time w) < maxAge

theorem History.isFresh_iff {β : Type} [Timed β] {b : History β} {now : Time} {maxAge : Nat} :
    b.isFresh now maxAge = true ↔ b.Recent now maxAge := by
  unfold History.isFresh History.Recent
  cases b.newest? <;> simp

theorem History.Recent.mono {β : Type} [Timed β] {b : History β} {now : Time} {maxAge limit : Nat}
    (h : b.Recent now maxAge) (hle : maxAge ≤ limit) : b.Recent now limit := by
  obtain ⟨w, newest, young⟩ := h
  exact ⟨w, newest, Nat.lt_of_lt_of_le young hle⟩

/-- The newest sample of a height source is younger than two of its intervals. -/
def Context.RecentHeight {α : Type} (x : Context α) : HeightSource → Prop
  | .baro => x.histories.baro.Recent x.clock.now (2 * x.settings.baroMaxInterval)
  | .gps => x.histories.gps.Recent x.clock.now (2 * x.settings.gpsMaxInterval)
  | .range => x.histories.range.Recent x.clock.now (2 * x.settings.rangeMaxInterval)
  | .vision => x.histories.vision.Recent x.clock.now (2 * x.settings.visionMaxInterval)

/-- The newest sample of a height source is younger than two of its intervals as a clock counts
them. -/
def Context.FreshHeight {α : Type} (x : Context α) : HeightSource → Prop
  | .baro => x.histories.baro.Recent x.clock.now (x.settings.heightMaxAge .baro)
  | .gps => x.histories.gps.Recent x.clock.now (x.settings.heightMaxAge .gps)
  | .range => x.histories.range.Recent x.clock.now (x.settings.heightMaxAge .range)
  | .vision => x.histories.vision.Recent x.clock.now (x.settings.heightMaxAge .vision)

/-- The newest sample of a source of horizontal position is younger than its limit. -/
def Context.RecentHorizontal {α : Type} (x : Context α) : HorizontalSource → Prop
  | .gps => x.histories.gps.Recent x.clock.now x.settings.timeouts.gpsDataMaxAge
  | .vision => x.histories.vision.Recent x.clock.now (2 * x.settings.visionMaxInterval)

/-- A request for a reset of position, velocity or height names a source that delivered lately. -/
def Request.Recent {α : Type} (x : Context α) : Request → Prop
  | .position source _ => x.RecentHorizontal source
  | .velocity source _ => x.RecentHorizontal source
  | .height source _ => x.RecentHeight source
  | .declination => True
  | .alignOutputs => True
  | .heading _ => True

variable {α : Type}

theorem sourceFresh_iff {x : Context α} {source : HeightSource} :
    Height.sourceFresh x source = true ↔ x.FreshHeight source := by
  cases source <;> exact History.isFresh_iff

/-- What is fresh is recent, because an interval is never counted as more than it is. -/
theorem Context.FreshHeight.recent {x : Context α} {source : HeightSource}
    (h : x.FreshHeight source) : x.RecentHeight source := by
  cases source <;> exact History.Recent.mono h (Time.twice_le _)

/-- The two agree on a source if twice its interval is a time. -/
theorem Context.freshHeight_iff {x : Context α} {source : HeightSource}
    (fits : 2 * x.settings.maxInterval source ≤ Time.last) :
    x.FreshHeight source ↔ x.RecentHeight source := by
  refine ⟨FreshHeight.recent, fun h => ?_⟩
  have exact := (Time.twice_of_le fits).ge
  cases source <;> exact History.Recent.mono h exact

theorem HeadingAttempt.recent {x : Context α} {granted : Bool} {rs : List Request}
    (h : HeadingAttempt granted rs) : ∀ r ∈ rs, r.Recent x := by
  rcases h with rfl | ⟨-, rfl⟩
  · exact List.forall_mem_singleton.mpr trivial
  · exact List.forall_mem_nil _

/-! ## What is asked for -/

section Decision

variable {C : Type} [Scalar α] [Estimator α C] {x : Context α} {s : Standing α} {c : C}
  {o : Outcome α C}

theorem recentHeight_of_choose {target : HeightSource}
    (h : Height.choose (Height.facts x s c) = some target) : x.RecentHeight target := by
  refine Context.FreshHeight.recent (sourceFresh_iff.mp ?_)
  have fresh := fresh_of_choose h
  -- two of the facts ask for aligned yaw besides
  cases target with
  | baro | vision => exact fresh
  | gps => exact (Bool.and_eq_true_iff.mp fresh).1
  | range => exact (Bool.and_eq_true_iff.mp fresh).2

omit [Scalar α] in
theorem recentVision_of_wantsPosition (h : Vision.wantsPosition x = true) :
    x.RecentHorizontal .vision ∧ x.RecentHeight .vision := by
  have fresh : x.FreshHeight .vision := History.isFresh_iff.mp (Bool.and_eq_true_iff.mp h).2
  exact ⟨fresh.recent, fresh.recent⟩

/-- A decision asks for resets to recent sources only, however it is answered. -/
theorem recent_decision (h : Decision x s c o) : ∀ r ∈ o.requests, r.Recent x := by
  cases h with
  | alignTilt _ _ _ _ hr | alignYaw _ _ _ _ hr | enterThreeAxis _ _ _ _ _ hr => exact hr.recent
  | startVisionPosition _ hw | refuseVisionPosition _ hw =>
      obtain ⟨horizontal, height⟩ := recentVision_of_wantsPosition hw
      simp [Request.Recent, horizontal, height]
  | startGps _ hd =>
      have fix : x.RecentHorizontal .gps := History.isFresh_iff.mp hd.fresh
      simp [Request.Recent, fix]
  | failGps _ _ hd _ hrs =>
      have fix : x.RecentHorizontal .gps := History.isFresh_iff.mp hd.fresh
      rcases hrs with rfl | rfl <;> simp [Request.Recent, fix]
  | recoverGps _ _ _ _ hf | failRecovery _ _ _ _ hf =>
      have fix : x.RecentHorizontal .gps := History.isFresh_iff.mp hf
      simp [Request.Recent, fix]
  | resetHeight _ _ _ hc | failHeightReset _ _ _ hc =>
      exact List.forall_mem_singleton.mpr (recentHeight_of_choose hc)
  | refreshDeclination => exact List.forall_mem_singleton.mpr trivial
  | startFlow =>
      split
      · exact List.forall_mem_nil _
      · exact List.forall_mem_singleton.mpr trivial
  | _ => exact List.forall_mem_nil _

theorem recent_settled (x : Context α) (s : Standing α) (c : C) :
    ∀ r ∈ (Arbiter.settled x s c).requests, r.Recent x :=
  (Arbiter.settled_decisions x s c).keep (P := fun o => ∀ r ∈ o.requests, r.Recent x)
    (List.forall_mem_nil _) fun _ p ih hd r hr =>
      (List.mem_append.mp hr).elim (ih r) (recent_decision (o := p) hd r)

end Decision

/-! ## How the filter core answers -/

/-- There is a sample of a source of horizontal position. -/
def Histories.hasHorizontal (h : Histories α) : HorizontalSource → Bool
  | .gps => h.gps.newest?.isSome
  | .vision => h.vision.newest?.isSome

/-- There is a sample of a height source. -/
def Histories.hasHeight (h : Histories α) : HeightSource → Bool
  | .baro => h.baro.newest?.isSome
  | .gps => h.gps.newest?.isSome
  | .range => h.range.newest?.isSome
  | .vision => h.vision.newest?.isSome

theorem History.Recent.isSome {β : Type} [Timed β] {b : History β} {now : Time} {maxAge : Nat}
    (h : b.Recent now maxAge) : b.newest?.isSome = true := by
  obtain ⟨w, hw, -⟩ := h
  rw [hw, Option.isSome_some]

theorem Context.RecentHorizontal.has {x : Context α} {source : HorizontalSource}
    (h : x.RecentHorizontal source) : x.histories.hasHorizontal source = true := by
  cases source <;> exact History.Recent.isSome h

theorem Context.RecentHeight.has {x : Context α} {source : HeightSource}
    (h : x.RecentHeight source) : x.histories.hasHeight source = true := by
  cases source <;> exact History.Recent.isSome h

namespace GatedFilter

variable [Scalar α] (f : GatedFilter α) (h : Histories α)

theorem resetPosition_granted (source : HorizontalSource) :
    (f.resetPosition source h).1 = h.hasHorizontal source := by
  unfold resetPosition Histories.hasHorizontal
  cases source with
  | gps => cases h.gps.newest? <;> rfl
  | vision => cases h.vision.newest? <;> rfl

theorem resetVelocity_granted (source : HorizontalSource) :
    (f.resetVelocity source h).1 = h.hasHorizontal source := by
  unfold resetVelocity Histories.hasHorizontal
  cases source with
  | gps => cases h.gps.newest? <;> rfl
  | vision => cases h.vision.newest? <;> rfl

theorem isSome_heightMeasurement (source : HeightSource) :
    (f.heightMeasurement source h none).isSome = h.hasHeight source := by
  unfold heightMeasurement sampleAt Histories.hasHeight
  cases source <;> exact Option.isSome_map

theorem resetHeight_granted (source : HeightSource) :
    (f.resetHeight source h).1 = h.hasHeight source := by
  rw [← f.isSome_heightMeasurement h source]
  unfold resetHeight
  cases f.heightMeasurement source h none with
  | none => rfl
  | some m =>
      dsimp only
      split <;> rfl

end GatedFilter

section Answers

variable [Scalar α] (f : GatedFilter α) (h : Histories α)

@[simp] theorem askPosition_granted (source : HorizontalSource) :
    (Estimator.askPosition f source h).granted = h.hasHorizontal source :=
  f.resetPosition_granted h source

@[simp] theorem askVelocity_granted (source : HorizontalSource) :
    (Estimator.askVelocity f source h).granted = h.hasHorizontal source :=
  f.resetVelocity_granted h source

@[simp] theorem askHeight_granted (source : HeightSource) :
    (Estimator.askHeight f source h).granted = h.hasHeight source :=
  f.resetHeight_granted h source

end Answers

/-! ## Nothing is refused -/

/-- The event reports a reset that the core refused. -/
def Event.isRefusal : Event α → Bool
  | .visionPositionResetFailed => true
  | .gpsActivationFailed => true
  | .gpsResetFailed => true
  | .heightResetFailed _ _ => true
  | _ => false

/-- Refusals are reported by the stages that ask for resets. -/
theorem Event.isRefusal_eq_false {e : Event α} (hv : e.stage ≠ .vision) (hg : e.stage ≠ .gps)
    (hh : e.stage ≠ .height) : e.isRefusal = false := by
  cases e <;> first | rfl | exact absurd rfl hv | exact absurd rfl hg | exact absurd rfl hh

section Stages

variable [Scalar α] (x : Context α) (s : Standing α) (f : GatedFilter α)

theorem vision_unrefused : ∀ e ∈ (Vision.control x s f).events, e.isRefusal = false := by
  have position : ∀ e ∈ (Vision.takePosition x s f).events, e.isRefusal = false := by
    unfold Vision.takePosition
    split
    · next hw =>
      obtain ⟨horizontal, height⟩ := recentVision_of_wantsPosition hw
      simp [horizontal.has, height.has, Event.isRefusal]
    · exact List.forall_mem_nil _
  have yaw : ∀ (s' : Standing α) (f' : GatedFilter α),
      ∀ e ∈ (Vision.takeYaw x s' f').events, e.isRefusal = false := by
    intro s' f'
    rcases takeYaw_events x s' f' with h | ⟨turn, h⟩ <;> rw [h]
    · exact List.forall_mem_nil _
    · exact List.forall_mem_singleton.mpr rfl
  intro e he
  rcases List.mem_append.mp he with he | he
  · exact position e he
  · exact yaw _ _ e he

theorem resetBoth_granted (h : Gps.fresh x = true) : (Gps.resetBoth x f).granted = true := by
  have fix : x.RecentHorizontal .gps := History.isFresh_iff.mp h
  simp [Gps.resetBoth, fix.has]

theorem gpsStart_unrefused (h : Gps.fresh x = true) :
    ∀ e ∈ (Gps.start x s f).events, e.isRefusal = false := by
  unfold Gps.start Gps.activate
  dsimp only
  split
  · simp only [Outcome.andThen, List.nil_append, resetBoth_granted x _ h, if_true]
    split <;> exact List.forall_mem_singleton.mpr rfl
  · exact List.forall_mem_nil _

theorem gps_unrefused : ∀ e ∈ (Gps.control x s f).events, e.isRefusal = false := by
  unfold Gps.control
  split
  · split
    · split
      · split
        · next hf =>
          have fix : x.RecentHorizontal .gps := History.isFresh_iff.mp hf
          simp [Gps.recover, fix.has, Event.isRefusal]
        · exact List.forall_mem_singleton.mpr rfl
      · exact List.forall_mem_nil _
    · split
      · next hw =>
        simp only [Gps.wantsStart, Bool.and_eq_true] at hw
        exact gpsStart_unrefused x s f hw.1.1.2
      · exact List.forall_mem_nil _
  · split
    · exact List.forall_mem_singleton.mpr rfl
    · exact List.forall_mem_nil _

theorem watchTimeout_unrefused : ∀ e ∈ (Height.watchTimeout x s f).events, e.isRefusal = false := by
  unfold Height.watchTimeout
  split
  · split
    · exact List.forall_mem_singleton.mpr rfl
    · next target hc =>
      have recent := recentHeight_of_choose hc
      simp [Height.resetTo, recent.has, Event.isRefusal]
  · exact List.forall_mem_nil _

theorem height_unrefused : ∀ e ∈ (Height.control x s f).events, e.isRefusal = false := by
  obtain ⟨s', f', first, last, events, hfirst, hlast⟩ := height_events x s f
  intro e he
  rw [events, List.mem_append, List.mem_append] at he
  rcases he with (he | he) | he
  · exact Event.forall_of_at_most (P := fun e => e.isRefusal = false) hfirst rfl e he
  · exact watchTimeout_unrefused x s' f' e he
  · exact Event.forall_of_at_most (P := fun e => e.isRefusal = false) hlast rfl e he

theorem run_unrefused (g : Stage) : ∀ e ∈ (g.run x s f).events, e.isRefusal = false := by
  intro e he
  cases g with
  | vision => exact vision_unrefused x s f e he
  | gps => exact gps_unrefused x s f e he
  | height => exact height_unrefused x s f e he
  | tilt =>
      have stage := watchTilt_isOf x s f e he
      exact Event.isRefusal_eq_false (by simp [stage]) (by simp [stage]) (by simp [stage])
  | flow =>
      have stage := flow_isOf x s f e he
      exact Event.isRefusal_eq_false (by simp [stage]) (by simp [stage]) (by simp [stage])
  | mag =>
      have stage := settle_isOf x s f e he
      exact Event.isRefusal_eq_false (by simp [stage]) (by simp [stage]) (by simp [stage])

theorem settled_unrefused : ∀ e ∈ (Arbiter.settled x s f).events, e.isRefusal = false := by
  intro e he
  exact run_unrefused x _ _ e.stage e ((mem_settled_iff rfl).mp he)

end Stages

/-- In every cycle, from any standing and however the core answers, each reset that is asked for
names a source whose newest sample is recent.  Under the filter core no cycle reports that a reset
was refused. -/
theorem resets_recent {C : Type} [Scalar α] [Estimator α C] (a : Arbiter α) (clock : Clock)
    (samples : Histories α) :
    (∀ (c : C), ∀ r ∈ (a.update clock samples c).requests, r.Recent (a.context clock samples)) ∧
    ∀ (f : GatedFilter α), ∀ e ∈ (a.update clock samples f).events, e.isRefusal = false := by
  refine ⟨fun c => ?_, fun f e he => ?_⟩
  · rw [Arbiter.update_eq]
    exact recent_settled _ _ c
  · rw [Arbiter.update_eq] at he
    rcases List.mem_append.mp he with he | he
    · exact settled_unrefused _ _ f e he
    · rcases mem_announce he with rfl | rfl | rfl <;> rfl

/-- Vision takes position over, and the pose that it resets height to is recent. -/
theorem resets_recent_visionAided :
    let a := alignedWith visionAided
    let core : GatedFilter Float := .levelled
    let clock : Clock := ⟨1010000, 910000⟩
    .height .vision true ∈ (a.update clock poseAndField core).requests ∧
      (Request.height .vision true).Recent (a.context clock poseAndField) ∧
      ∀ e ∈ (a.update clock poseAndField core).events, e.isRefusal = false := by
  intro a core clock
  obtain ⟨recent, unrefused⟩ := resets_recent (C := GatedFilter Float) a clock poseAndField
  have asked : .height .vision true ∈ (a.update clock poseAndField core).requests := by
    decide +kernel
  exact ⟨asked, recent core _ asked, unrefused core⟩

end NavArbiter

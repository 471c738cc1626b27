/-
# What a cycle can decide

The stages of a cycle test many things and do few.  `Decision x s c o` lists what they do, one
constructor each: what is written into the standing, which events are announced and which requests
were made, together with the tests that were passed on the way.  The core is read in the tests and
left open in the outcome, so nothing here depends on how a core answers.

`Decisions` chains them, and `settled_decisions` says that a cycle up to its last announcement is
such a chain.  What every decision keeps is therefore kept by every cycle, and an invariant of the
arbitration takes one case for each constructor and never a look into a controller.
-/
import NavArbiter.Arbiter

namespace NavArbiter

variable {α C : Type} [Scalar α] [Estimator α C]

/-- The answer to an attempt at a heading, with the requests it took.  Without a sample of the
magnetometer nothing is asked and nothing granted. -/
def HeadingAttempt (granted : Bool) (rs : List Request) : Prop :=
  rs = [.heading granted] ∨ granted = false ∧ rs = []

theorem HeadingAttempt.mem {rs : List Request} (h : HeadingAttempt true rs) :
    Request.heading true ∈ rs := by
  rcases h with rfl | ⟨hf, -⟩
  · exact List.mem_singleton_self _
  · cases hf

section Answers

omit [Scalar α]

theorem exists_askPosition (c : C) (source : HorizontalSource) (h : Histories α) :
    ∃ granted c', Estimator.askPosition c source h = ⟨granted, c', [.position source granted]⟩ :=
  ⟨_, _, rfl⟩

theorem exists_askVelocity (c : C) (source : HorizontalSource) (h : Histories α) :
    ∃ granted c', Estimator.askVelocity c source h = ⟨granted, c', [.velocity source granted]⟩ :=
  ⟨_, _, rfl⟩

theorem exists_askHeight (c : C) (source : HeightSource) (h : Histories α) :
    ∃ granted c', Estimator.askHeight c source h = ⟨granted, c', [.height source granted]⟩ :=
  ⟨_, _, rfl⟩

theorem exists_askHeadingFromMag (c : C) (h : Histories α) :
    ∃ granted c' rs, Estimator.askHeadingFromMag c h = ⟨granted, c', rs⟩ ∧
      HeadingAttempt granted rs := by
  unfold Estimator.askHeadingFromMag
  cases h.mag.newest? with
  | none => exact ⟨_, _, _, rfl, Or.inr ⟨rfl, rfl⟩⟩
  | some m => exact ⟨_, _, _, rfl, Or.inl rfl⟩

end Answers

/-- The tests for a start of satellite navigation that hold up to the start itself, whatever an
attempt at a heading does to the core. -/
structure GpsDue (x : Context α) (s : Standing α) : Prop where
  allowed : x.settings.allowed.gps = true
  unused : x.before.gps = false
  tiltAligned : x.before.tiltAligned = true
  fresh : Gps.fresh x = true
  cooledDown : (s.health.sensor .gps).canRetry x.clock.now
    x.settings.timeouts.gpsFailCooldown = true
  yawAligned : s.status.yawAligned = true

/-- A recent sample is a sample. -/
theorem History.exists_newest_of_isFresh {β : Type} [Timed β] {b : History β} {now : Time}
    {maxAge : Nat} (h : b.isFresh now maxAge = true) : ∃ w, b.newest? = some w := by
  unfold History.isFresh at h
  cases hb : b.newest? with
  | none => rw [hb] at h; cases h
  | some w => exact ⟨w, rfl⟩

/-! ## What the magnetometer controller writes

It writes the yaw observer, declination fusion and the validity of wind.  The other fields of the
status are as they were, whichever mode is decided. -/

section DecideStatus

omit [Scalar α]

variable (x : Context α) (mode : MagMode) (s : Standing α)

theorem decideStatus_frame :
    ∃ yaw declination windValid, Mag.decideStatus x mode s =
      ⟨s.status.tiltAligned, s.status.yawAligned, s.status.gps, s.status.flow,
        s.status.visionPosition, s.status.inAir, windValid, s.status.height, yaw,
        declination⟩ := by
  unfold Mag.decideStatus Status.setMagMode Status.setMagMode?
  split
  · exact ⟨_, _, _, rfl⟩
  · exact ⟨_, _, _, rfl⟩

@[simp] theorem decideStatus_tiltAligned :
    (Mag.decideStatus x mode s).tiltAligned = s.status.tiltAligned := by
  obtain ⟨_, _, _, h⟩ := decideStatus_frame x mode s
  rw [h]

@[simp] theorem decideStatus_inAir :
    (Mag.decideStatus x mode s).inAir = s.status.inAir := by
  obtain ⟨_, _, _, h⟩ := decideStatus_frame x mode s
  rw [h]

@[simp] theorem decideStatus_yawAligned :
    (Mag.decideStatus x mode s).yawAligned = s.status.yawAligned := by
  obtain ⟨_, _, _, h⟩ := decideStatus_frame x mode s
  rw [h]

@[simp] theorem decideStatus_gps : (Mag.decideStatus x mode s).gps = s.status.gps := by
  obtain ⟨_, _, _, h⟩ := decideStatus_frame x mode s
  rw [h]

@[simp] theorem decideStatus_flow : (Mag.decideStatus x mode s).flow = s.status.flow := by
  obtain ⟨_, _, _, h⟩ := decideStatus_frame x mode s
  rw [h]

@[simp] theorem decideStatus_height :
    (Mag.decideStatus x mode s).height = s.status.height := by
  obtain ⟨_, _, _, h⟩ := decideStatus_frame x mode s
  rw [h]

variable {s}

theorem decideStatus_yaw (h : s.status.visionYaw = false) :
    (Mag.decideStatus x mode s).yaw = .magnetometer mode := by
  simp [Mag.decideStatus, Status.setMagMode, Status.setMagMode?, Status.setDeclination, h]

/-- Declination is fused on three axes only, and beside satellite navigation only on request. -/
theorem decideStatus_declination (h : s.status.visionYaw = false) :
    (Mag.decideStatus x mode s).declination =
      ((!x.before.gps || x.settings.fuseDeclination) && mode == .threeAxis) := by
  simp [Mag.decideStatus, Status.setMagMode, Status.setMagMode?, Status.setDeclination,
    Status.magThreeAxis, Status.magMode, h]

end DecideStatus

/-! ## Single decisions -/

/-- One decision of a stage that finds the standing `s` and the core `c`. -/
inductive Decision (x : Context α) (s : Standing α) (c : C) : Outcome α C → Prop
  | refreshDeclination (c' : C) : Decision x s c ⟨s, c', [], [.declination]⟩
  | alignTilt (c' : C) (granted : Bool) {rs : List Request} :
      s.status.tiltAligned = false → Arbiter.tiltConverged x.settings c = true →
      HeadingAttempt granted rs →
      Decision x s c ⟨s.mapStatus fun t => { t with tiltAligned := true, yawAligned := granted },
        c', [.tiltAligned granted], rs⟩
  | startVisionPosition (c' : C) : Vision.wantsPosition x = true →
      Decision x s c ⟨s.mapStatus fun t => { t with height := .vision, visionPosition := true },
        c', [.visionPositionStarted],
        [.position .vision true, .velocity .vision true, .height .vision true]⟩
  | refuseVisionPosition (c' : C) {p v h : Bool} : Vision.wantsPosition x = true →
      (p && v && h) = false →
      Decision x s c ⟨s, c', [.visionPositionResetFailed],
        [.position .vision p, .velocity .vision v, .height .vision h]⟩
  | startVisionYaw (c' : C) (turn : α) : Vision.wantsYaw x = true →
      Decision x s c ⟨s.mapStatus fun t => { t with yawAligned := true }.claimVisionYaw, c',
        [.visionYawStarted turn], []⟩
  /-- Flow or satellite navigation waits for nothing but yaw. -/
  | alignYaw (c' : C) (granted : Bool) {rs : List Request} : x.before.tiltAligned = true →
      s.status.yawAligned = false → HeadingAttempt granted rs →
      Decision x s c ⟨s.setYawAligned granted, c', [], rs⟩
  | startFlow (c' : C) : x.settings.allowed.flow = true →
      Flow.wantsStart x s = true → s.status.yawAligned = true →
      Decision x s c ⟨(s.mapStatus fun t => { t with flow := true }).mapHealth fun h =>
        h.recordFusion .flow x.clock.now, c', [.flowStarted],
        if x.before.gps || x.before.inAir then [] else [.alignOutputs]⟩
  | loseFlow (c' : C) (anchor : Vec2 α) : x.settings.allowed.flow = true →
      Flow.isLost x s = true →
      Decision x s c ⟨{ s.mapStatus fun t => { t with flow := false } with anchor := anchor }, c',
        [.flowLost anchor], []⟩
  | disableFlow (c' : C) : x.settings.allowed.flow = false → x.before.flow = true →
      Decision x s c ⟨s.mapStatus fun t => { t with flow := false }, c', [.flowDisabled], []⟩
  | startGpsBesideFlow (c' : C) : GpsDue x s → x.before.flow = true →
      Decision x s c ⟨s.mapStatus fun t => { t with gps := true }, c', [.gpsStarted], []⟩
  | startGps (c' : C) : GpsDue x s → x.before.flow = false →
      Decision x s c ⟨(s.mapStatus fun t => { t with gps := true }).mapHealth fun h =>
        h.restartHorizontal x.clock.now, c', [.gpsStarted],
        [.position .gps true, .velocity .gps true]⟩
  | failGps (c' : C) (rs : List Request) : GpsDue x s → x.before.flow = false →
      (rs = [.position .gps false] ∨ rs = [.position .gps true, .velocity .gps false]) →
      Decision x s c ⟨s.mapHealth fun h => h.recordFailure .gps x.clock.now, c',
        [.gpsActivationFailed], rs⟩
  | loseGps (c' : C) (anchor : Vec2 α) : x.before.gps = true → x.before.flow = false →
      Gps.timedOut x s = true → Gps.fresh x = false →
      Decision x s c ⟨{ s.mapStatus fun t => { t with gps := false } with anchor := anchor }, c',
        [.gpsLost anchor], []⟩
  | recoverGps (c' : C) : x.before.gps = true → x.before.flow = false →
      Gps.timedOut x s = true → Gps.fresh x = true →
      Decision x s c ⟨s.mapHealth fun h => h.restartHorizontal x.clock.now, c',
        [.gpsResetToMeasurement], [.velocity .gps true, .position .gps true]⟩
  | failRecovery (c' : C) {v p : Bool} : x.before.gps = true → x.before.flow = false →
      Gps.timedOut x s = true → Gps.fresh x = true → (v && p) = false →
      Decision x s c ⟨s, c', [.gpsResetFailed], [.velocity .gps v, .position .gps p]⟩
  | disableGps (c' : C) : x.settings.allowed.gps = false → x.before.gps = true →
      Decision x s c ⟨s.mapStatus fun t => { t with gps := false }, c', [.gpsDisabled], []⟩
  | suspectInertialFault (c' : C) : x.before.height = .baro → Height.inertialFault x c = true →
      Decision x s c ⟨s.mapHealth fun h => { h with lastInertialFault := some x.clock.now }, c',
        [.inertialFaultSuspected], []⟩
  | denyHeightReset (c' : C) : Height.timedOut x s c = true →
      Height.choose (Height.facts x s c) = none →
      Decision x s c ⟨s, c', [.heightResetDenied x.before.height], []⟩
  | resetHeight (c' : C) (target : HeightSource) : Height.timedOut x s c = true →
      Height.choose (Height.facts x s c) = some target →
      Decision x s c ⟨(s.mapStatus fun t => { t with height := target }).mapHealth fun h =>
        Height.healthAfterReset h x.before.height target x.clock.now, c',
        [.heightReset x.before.height target], [.height target true]⟩
  | failHeightReset (c' : C) (target : HeightSource) : Height.timedOut x s c = true →
      Height.choose (Height.facts x s c) = some target →
      Decision x s c ⟨s, c', [.heightResetFailed x.before.height target],
        [.height target false]⟩
  | selectPreferred (c' : C) : s.status.height ≠ x.settings.preferredHeight →
      Height.sound x s x.settings.preferredHeight = true →
      Height.presentAtHorizon x x.settings.preferredHeight = true →
      Decision x s c ⟨s.mapStatus fun t => { t with height := x.settings.preferredHeight }, c',
        [.heightSourceSelected x.settings.preferredHeight], []⟩
  | noteGround (c' : C) (ground : α) : x.before.inAir = false →
      Decision x s c ⟨{ s with ground := ground }, c', [], []⟩
  | settleMag (c' : C) : s.status.visionYaw = false →
      (Mag.target x s c = .threeAxis → s.status.magThreeAxis = true) →
      Decision x s c ⟨{ s with status := Mag.decideStatus x (Mag.target x s c) s }, c', [], []⟩
  | enterThreeAxis (c' : C) (granted : Bool) {rs : List Request} : s.status.visionYaw = false →
      Mag.target x s c = .threeAxis → s.status.magThreeAxis = false →
      HeadingAttempt granted rs →
      Decision x s c
        ⟨{ s with status := Mag.decideStatus x .threeAxis (s.setYawAligned granted) }, c', [], rs⟩

/-- Decisions one after another, from the standing and the core that a stage finds. -/
inductive Decisions (x : Context α) (s : Standing α) (c : C) : Outcome α C → Prop
  | none : Decisions x s c (.unchanged s c)
  | more {o p : Outcome α C} : Decisions x s c o → Decision x o.standing o.core p →
      Decisions x s c (o.andThen fun _ _ => p)

namespace Decisions

variable {x : Context α} {s : Standing α} {c : C}

theorem one {o : Outcome α C} (h : Decision x s c o) : Decisions x s c o :=
  .more .none h

/-- The decisions of one stage after those of another. -/
theorem andThen {o : Outcome α C} {f : Standing α → C → Outcome α C} (h : Decisions x s c o)
    (hf : Decisions x o.standing o.core (f o.standing o.core)) :
    Decisions x s c (o.andThen f) := by
  have key : ∀ r, Decisions x o.standing o.core r → Decisions x s c (o.andThen fun _ _ => r) := by
    intro r hr
    induction hr with
    | none => simpa [Outcome.andThen, Outcome.unchanged] using h
    | more _ hd ih => simpa [Outcome.andThen] using Decisions.more ih hd
  exact key _ hf

/-- What holds before a stage and is kept by each decision holds after it. -/
theorem keep {P : Outcome α C → Prop} (start : P (.unchanged s c))
    (step : ∀ o p, P o → Decision x o.standing o.core p → P (o.andThen fun _ _ => p))
    {o : Outcome α C} (h : Decisions x s c o) : P o := by
  induction h with
  | none => exact start
  | more _ hd ih => exact step _ _ ih hd

end Decisions

/-! ## The stages -/

section Stages

variable (x : Context α) (s : Standing α) (c : C)

theorem watchTilt_decisions : Decisions x s c (Arbiter.watchTilt x s c) := by
  unfold Arbiter.watchTilt
  obtain ⟨granted, c', rs, hask, hrs⟩ := exists_askHeadingFromMag c x.histories
  split
  · next h =>
    rw [Bool.and_eq_true, Bool.not_eq_true'] at h
    rw [hask]
    exact .one (.alignTilt c' granted h.1 h.2 hrs)
  · exact .none

theorem takePosition_decisions : Decisions x s c (Vision.takePosition x s c) := by
  unfold Vision.takePosition
  split
  · next hw =>
    obtain ⟨p, c₁, hp⟩ := exists_askPosition c .vision x.histories
    obtain ⟨v, c₂, hv⟩ := exists_askVelocity c₁ .vision x.histories
    obtain ⟨h, c₃, hh⟩ := exists_askHeight c₂ .vision x.histories
    simp only [hp, hv, hh]
    split
    · next hg =>
      simp only [Bool.and_eq_true] at hg
      obtain ⟨⟨rfl, rfl⟩, rfl⟩ := hg
      exact .one (.startVisionPosition c₃ hw)
    · next hg => exact .one (.refuseVisionPosition c₃ hw (Bool.eq_false_iff.mpr hg))
  · exact .none

theorem takeYaw_decisions : Decisions x s c (Vision.takeYaw x s c) := by
  unfold Vision.takeYaw
  split
  · next hw =>
    split
    · exact .none
    · exact .one (.startVisionYaw _ _ hw)
  · exact .none

theorem vision_decisions : Decisions x s c (Vision.control x s c) :=
  (takePosition_decisions x s c).andThen (takeYaw_decisions x _ _)

/-- Yaw is found aligned, or an attempt is made at it. -/
theorem ofMag_decisions (ht : x.before.tiltAligned = true) :
    let a := Alignment.ofMag x s c
    Decisions x s c ⟨a.standing, a.core, [], a.requests⟩ := by
  dsimp only [Alignment.ofMag]
  obtain ⟨granted, c', rs, hask, hrs⟩ := exists_askHeadingFromMag c x.histories
  split
  · exact .none
  · next h =>
    rw [hask]
    exact .one (.alignYaw c' granted ht (Bool.eq_false_iff.mpr h) hrs)

omit [Scalar α] in
/-- An attempt at yaw touches nothing but the flag of its success. -/
theorem ofMag_standing :
    ∃ aligned, (Alignment.ofMag x s c).standing = s.setYawAligned aligned := by
  unfold Alignment.ofMag
  split
  · next h => exact ⟨s.status.yawAligned, rfl⟩
  · exact ⟨_, rfl⟩

/-- What a start of flow asks for, apart from yaw: on the ground the alignment of the outputs. -/
theorem seed_requests (hf : x.isFresh x.histories.flow x.settings.timeouts.flowDataMaxAge = true) :
    (Flow.seed x c).2 = if x.before.gps || x.before.inAir then [] else [.alignOutputs] := by
  obtain ⟨w, hw⟩ := History.exists_newest_of_isFresh hf
  unfold Flow.seed
  cases x.before.gps <;> cases x.before.inAir <;> simp [hw]

theorem flowStart_decisions (ha : x.settings.allowed.flow = true)
    (hw : Flow.wantsStart x s = true) : Decisions x s c (Flow.start x s c) := by
  have hguards := hw
  simp only [Flow.wantsStart, Bool.and_eq_true] at hguards
  obtain ⟨⟨⟨-, ht⟩, hfresh⟩, -⟩ := hguards
  have hatt := ofMag_decisions x s c ht
  obtain ⟨aligned, hs⟩ := ofMag_standing x s c
  unfold Flow.start
  dsimp only
  split
  · next hy =>
    rw [seed_requests x _ hfresh]
    refine hatt.more (.startFlow _ ha ?_ hy)
    rw [hs]
    exact hw
  · exact hatt

theorem flow_decisions : Decisions x s c (Flow.control x s c) := by
  unfold Flow.control
  split
  · next ha =>
    split
    · next hw => exact flowStart_decisions x s c ha hw
    · split
      · next hl => exact .one (.loseFlow _ _ ha hl)
      · exact .none
  · next ha =>
    split
    · next hb => exact .one (.disableFlow _ (Bool.eq_false_iff.mpr ha) hb)
    · exact .none

omit [Scalar α] in
theorem resetBoth_cases :
    (∃ c', Gps.resetBoth x c = ⟨true, c', [.position .gps true, .velocity .gps true]⟩) ∨
    ∃ c' rs, Gps.resetBoth x c = ⟨false, c', rs⟩ ∧
      (rs = [.position .gps false] ∨ rs = [.position .gps true, .velocity .gps false]) := by
  unfold Gps.resetBoth
  obtain ⟨p, c₁, hp⟩ := exists_askPosition c .gps x.histories
  obtain ⟨v, c₂, hv⟩ := exists_askVelocity c₁ .gps x.histories
  rw [hp]
  cases p with
  | false => exact Or.inr ⟨_, _, rfl, Or.inl rfl⟩
  | true =>
      simp only [if_true, hv]
      cases v with
      | false => exact Or.inr ⟨_, _, rfl, Or.inr rfl⟩
      | true => exact Or.inl ⟨_, rfl⟩

theorem activate_decisions (hd : GpsDue x s) : Decisions x s c (Gps.activate x s c) := by
  unfold Gps.activate
  dsimp only
  split
  · next hf => exact .one (.startGpsBesideFlow _ hd hf)
  · next hf =>
    have hf := Bool.eq_false_iff.mpr hf
    rcases resetBoth_cases x c with ⟨c', h⟩ | ⟨c', rs, h, hrs⟩ <;> rw [h]
    · exact .one (.startGps _ hd hf)
    · exact .one (.failGps _ _ hd hf hrs)

theorem gpsStart_decisions (ha : x.settings.allowed.gps = true) (hb : x.before.gps = false)
    (hw : Gps.wantsStart x s c = true) : Decisions x s c (Gps.start x s c) := by
  simp only [Gps.wantsStart, Bool.and_eq_true] at hw
  obtain ⟨⟨⟨ht, hfresh⟩, -⟩, hcool⟩ := hw
  have hatt := ofMag_decisions x s c ht
  obtain ⟨aligned, hs⟩ := ofMag_standing x s c
  unfold Gps.start
  dsimp only
  split
  · next hy =>
    refine hatt.andThen (activate_decisions x _ _ ⟨ha, hb, ht, hfresh, ?_, hy⟩)
    rw [hs]
    exact hcool
  · exact hatt

theorem recover_decisions (hb : x.before.gps = true) (hf : x.before.flow = false)
    (ht : Gps.timedOut x s = true) (hfresh : Gps.fresh x = true) :
    Decisions x s c (Gps.recover x s c) := by
  unfold Gps.recover
  obtain ⟨v, c₁, hv⟩ := exists_askVelocity c .gps x.histories
  obtain ⟨p, c₂, hp⟩ := exists_askPosition c₁ .gps x.histories
  simp only [hv, hp]
  split
  · next hg =>
    simp only [Bool.and_eq_true] at hg
    obtain ⟨rfl, rfl⟩ := hg
    exact .one (.recoverGps c₂ hb hf ht hfresh)
  · next hg => exact .one (.failRecovery c₂ hb hf ht hfresh (Bool.eq_false_iff.mpr hg))

theorem gps_decisions : Decisions x s c (Gps.control x s c) := by
  unfold Gps.control
  split
  · next ha =>
    split
    · next hb =>
      split
      · next ht =>
        rw [Bool.and_eq_true, Bool.not_eq_true'] at ht
        split
        · next hfresh => exact recover_decisions x s c hb ht.1 ht.2 hfresh
        · next hfresh =>
          exact .one (.loseGps _ _ hb ht.1 ht.2 (Bool.eq_false_iff.mpr hfresh))
      · exact .none
    · next hb =>
      split
      · next hw => exact gpsStart_decisions x s c ha (Bool.eq_false_iff.mpr hb) hw
      · exact .none
  · next ha =>
    split
    · next hb => exact .one (.disableGps _ (Bool.eq_false_iff.mpr ha) hb)
    · exact .none

theorem watchInertial_decisions : Decisions x s c (Height.watchInertial x s c) := by
  unfold Height.watchInertial
  split
  · next h => exact .one (.suspectInertialFault _ h.1 h.2)
  · exact .none

theorem watchTimeout_decisions : Decisions x s c (Height.watchTimeout x s c) := by
  unfold Height.watchTimeout
  split
  · next ht =>
    split
    · next hn => exact .one (.denyHeightReset _ ht hn)
    · next target hc =>
      unfold Height.resetTo
      obtain ⟨granted, c', hask⟩ := exists_askHeight c target x.histories
      simp only [hask]
      cases granted with
      | false => exact .one (.failHeightReset c' target ht hc)
      | true => exact .one (.resetHeight c' target ht hc)
  · exact .none

theorem selectPreferred_decisions : Decisions x s c (Height.selectPreferred x s c) := by
  unfold Height.selectPreferred
  dsimp only
  split
  · next h => exact .one (.selectPreferred _ h.1 h.2.1 h.2.2)
  · exact .none

theorem noteGround_decisions : Decisions x s c (Height.noteGround x s c) := by
  unfold Height.noteGround
  split
  · exact .none
  · next h => exact .one (.noteGround _ _ (Bool.eq_false_iff.mpr h))

theorem height_decisions : Decisions x s c (Height.control x s c) :=
  (((watchInertial_decisions x s c).andThen (watchTimeout_decisions x _ _)).andThen
    (selectPreferred_decisions x _ _)).andThen (noteGround_decisions x _ _)

theorem settle_decisions : Decisions x s c (Mag.settle x s c) := by
  unfold Mag.settle Mag.enter
  split
  · exact .none
  · next hv =>
    have hv := Bool.eq_false_iff.mpr hv
    dsimp only
    split
    · next h =>
      obtain ⟨ht, h3⟩ := h
      obtain ⟨granted, c', rs, hask, hrs⟩ := exists_askHeadingFromMag c x.histories
      rw [hask, ht]
      rw [Bool.not_eq_true'] at h3
      have hd := Decisions.one (.enterThreeAxis c' granted hv ht h3 hrs)
      rw [← List.append_nil rs] at hd
      exact hd
    · next h =>
      refine .one (.settleMag _ hv fun ht => ?_)
      cases h3 : s.status.magThreeAxis with
      | true => rfl
      | false => exact absurd ⟨ht, by rw [h3]; rfl⟩ h

end Stages

/-! ## The cycle -/

namespace Arbiter

/-- What the controllers read in the cycle of an arbiter. -/
def context (a : Arbiter α) (clock : Clock) (h : Histories α) : Context α :=
  ⟨clock, a.settings, h, a.standing.status⟩

/-- The cycle up to the announcement with which it ends. -/
def settled (x : Context α) (s : Standing α) (c : C) : Outcome α C :=
  (((((refreshDeclination s c).andThen (watchTilt x)).andThen (Vision.control x)).andThen
    (Flow.control x)).andThen (Gps.control x)).andThen (Height.control x) |>.andThen (Mag.settle x)

theorem settled_decisions (x : Context α) (s : Standing α) (c : C) :
    Decisions x s c (settled x s c) := by
  have h₀ : Decisions x s c (refreshDeclination s c) := .one (.refreshDeclination _)
  have h₁ := h₀.andThen (watchTilt_decisions x _ _)
  have h₂ := h₁.andThen (vision_decisions x _ _)
  have h₃ := h₂.andThen (flow_decisions x _ _)
  have h₄ := h₃.andThen (gps_decisions x _ _)
  have h₅ := h₄.andThen (height_decisions x _ _)
  exact h₅.andThen (settle_decisions x _ _)

/-- A cycle is its decisions, the announcement of the magnetometer group, and the application of
the jumps. -/
theorem update_eq (a : Arbiter α) (clock : Clock) (h : Histories α) (c : C) :
    a.update clock h c =
      let x := a.context clock h
      let o := settled x a.standing c
      ⟨⟨a.settings, o.standing, a.standing.status⟩, Estimator.applyJumps o.core,
        o.events ++ Mag.announce x.before o.standing.status, o.requests⟩ := by
  simp [update, settled, controllers, Mag.control, context, Outcome.andThen, List.append_assoc]

end Arbiter

end NavArbiter

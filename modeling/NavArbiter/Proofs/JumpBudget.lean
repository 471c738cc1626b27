/-
# The jumps of a cycle, stage by stage

`Accounted` states of a stage which kinds of marks it leaves on a recorded gated filter.  Taken in
their order, the stages log

    stage       jumps, each at most once                the attitude only if
    tilt        attitude                                tilt was not aligned before
    vision      horizontal position and velocity,       tilt was aligned before, and
                vertical position; attitude             yaw is aligned from then on
    flow        attitude                                yaw was not aligned, and is then
    gps         attitude; horizontal position and       yaw was not aligned, and is then
                velocity
    height      vertical position and velocity
    mag         attitude

so every kind but the attitude plainly comes at most twice.  The last column bounds the attitude:
up to the magnetometer controller its jumps exclude each other (`settled_accounted`).
-/
import NavArbiter.Proofs.Decision
import NavArbiter.Proofs.ResetJumps

namespace NavArbiter

variable {α : Type} [Scalar α]

/-- Flow started on the ground without satellite navigation, which aligns the outputs. -/
def GroundStart (before : Status) (es : List (Event α)) : Prop :=
  .flowStarted ∈ es ∧ before.gps = false ∧ before.inAir = false

/-- A stage left marks of these kinds, and an alignment among them stands for a start of flow on the
ground. -/
structure Accounted (x : Context α) (r : Recorder α (GatedFilter α)) (ks : List (Option JumpKind))
    (o : Outcome α (Recorder α (GatedFilter α))) : Prop where
  logs : r.Logs ks o.core
  aligned : none ∈ ks ↔ GroundStart x.before o.events

namespace Accounted

variable {x : Context α} {r : Recorder α (GatedFilter α)} {ks ls : List (Option JumpKind)}
  {o : Outcome α (Recorder α (GatedFilter α))}

/-- Where flow is not started, nothing is aligned. -/
theorem of_logs (h : r.Logs ks o.core) (hk : none ∉ ks) (he : .flowStarted ∉ o.events) :
    Accounted x r ks o :=
  ⟨h, fun hm => absurd hm hk, fun hg => absurd hg.1 he⟩

theorem unchanged (s : Standing α) : Accounted x r [] (.unchanged s r) :=
  of_logs (.refl r) List.not_mem_nil List.not_mem_nil

theorem andThen {f : Standing α → Recorder α (GatedFilter α) → Outcome α _}
    (h : Accounted x r ks o) (hf : Accounted x o.core ls (f o.standing o.core)) :
    Accounted x r (ks ++ ls) (o.andThen f) where
  logs := h.logs.trans hf.logs
  aligned := by
    rw [List.mem_append, h.aligned, hf.aligned]
    simp only [GroundStart, Outcome.andThen, List.mem_append]
    exact or_and_right.symm

end Accounted

/-- Whether a heading was set while yaw alignment went from `yaw` to `yaw'`: only to align what was
not aligned, and only after tilt. -/
structure Turned (x : Context α) (turned yaw yaw' : Bool) : Prop where
  tilt : turned = true → x.before.tiltAligned = true
  before : turned = true → yaw = false
  after : turned = true → yaw' = true
  keep : yaw = true → yaw' = true

omit [Scalar α] in
theorem Turned.none (x : Context α) (yaw : Bool) : Turned x false yaw yaw :=
  ⟨nofun, nofun, nofun, id⟩

variable (x : Context α) (s : Standing α) (r : Recorder α (GatedFilter α))

theorem watchTilt_accounted :
    ∃ turned, Accounted x r (once turned (some .attitude)) (Arbiter.watchTilt x s r) ∧
      (turned = true → s.status.tiltAligned = false) := by
  unfold Arbiter.watchTilt
  split
  · next h =>
    rw [Bool.and_eq_true, Bool.not_eq_true'] at h
    obtain ⟨granted, r', rs, hask, hl⟩ := Recorder.askHeadingFromMag_logs r x.histories
    rw [hask]
    exact ⟨granted, .of_logs hl (by simp) (by simp), fun _ => h.1⟩
  · exact ⟨false, .unchanged s, nofun⟩

theorem takePosition_accounted :
    ∃ p v h, Accounted x r (once p (some .horizontalPosition) ++
      once v (some .horizontalVelocity) ++ once h (some .verticalPosition))
      (Vision.takePosition x s r) := by
  unfold Vision.takePosition
  split
  · obtain ⟨p, r₁, hp, l₁⟩ := Recorder.askPosition_logs r .vision x.histories
    obtain ⟨v, r₂, hv, l₂⟩ := Recorder.askVelocity_logs r₁ .vision x.histories
    obtain ⟨h, r₃, descent, hh, hd, l₃⟩ := Recorder.askHeight_logs r₂ .vision x.histories
    simp only [hp, hv, hh]
    cases descent with
    | true => cases hd rfl
    | false =>
      rw [show once false (some JumpKind.verticalVelocity) = [] from rfl, List.append_nil] at l₃
      refine ⟨p, v, h, ?_⟩
      split <;> exact .of_logs ((l₁.trans l₂).trans l₃) (by simp) (by simp)
  · exact ⟨false, false, false, .unchanged s⟩

theorem takeYaw_accounted :
    ∃ turned, Accounted x r (once turned (some .attitude)) (Vision.takeYaw x s r) ∧
      (turned = true → x.before.tiltAligned = true ∧
        (Vision.takeYaw x s r).standing.status.yawAligned = true) := by
  unfold Vision.takeYaw
  split
  · next hw =>
    simp only [Vision.wantsYaw, Bool.and_eq_true] at hw
    split
    · exact ⟨false, .unchanged s, fun h => absurd h Bool.false_ne_true⟩
    · exact ⟨true, .of_logs (Recorder.turnTo_logs r _) (by simp) (by simp),
        fun _ => ⟨hw.1.2, rfl⟩⟩
  · exact ⟨false, .unchanged s, fun h => absurd h Bool.false_ne_true⟩

theorem vision_accounted :
    let o := Vision.control x s r
    ∃ p v h turned, Accounted x r (once p (some .horizontalPosition) ++
        once v (some .horizontalVelocity) ++ once h (some .verticalPosition) ++
          once turned (some .attitude)) o ∧
      (turned = true → x.before.tiltAligned = true ∧ o.standing.status.yawAligned = true) := by
  obtain ⟨p, v, h, ha⟩ := takePosition_accounted x s r
  obtain ⟨turned, hb, hy⟩ := takeYaw_accounted x (Vision.takePosition x s r).standing
    (Vision.takePosition x s r).core
  exact ⟨p, v, h, turned, ha.andThen hb, hy⟩

/-- Yaw is found aligned, or one heading is set to align it. -/
theorem ofMag_logs (ht : x.before.tiltAligned = true) :
    let a := Alignment.ofMag x s r
    ∃ turned, r.Logs (once turned (some .attitude)) a.core ∧
      Turned x turned s.status.yawAligned a.standing.status.yawAligned := by
  dsimp only [Alignment.ofMag]
  split
  · exact ⟨false, .refl r, .none x _⟩
  · next hy =>
    obtain ⟨granted, r', rs, hask, hl⟩ := Recorder.askHeadingFromMag_logs r x.histories
    rw [hask]
    exact ⟨granted, hl, fun _ => ht, fun _ => Bool.eq_false_iff.mpr hy, id, fun h => absurd h hy⟩

/-- A start of flow with a sample at hand aligns the outputs on the ground, and only there. -/
theorem seed_logs {w : FlowSample α} (hw : x.histories.flow.newest? = some w) :
    r.Logs (once (!x.before.gps && !x.before.inAir) none) (Flow.seed x r).1 := by
  unfold Flow.seed
  rw [hw]
  cases x.before.gps with
  | true => exact .refl r
  | false =>
    cases x.before.inAir with
    | true => exact Recorder.seedVelocity_logs r x w
    | false => exact (Recorder.seedVelocity_logs r x w).trans (Recorder.seedOrigin_logs _)

theorem flowStart_accounted (hw : Flow.wantsStart x s = true) :
    let o := Flow.start x s r
    ∃ turned ground, Accounted x r (once turned (some .attitude) ++ once ground none) o ∧
      Turned x turned s.status.yawAligned o.standing.status.yawAligned := by
  simp only [Flow.wantsStart, Bool.and_eq_true] at hw
  obtain ⟨⟨⟨-, ht⟩, hfresh⟩, -⟩ := hw
  obtain ⟨w, hnewest⟩ := History.exists_newest_of_isFresh hfresh
  obtain ⟨turned, hl, hturn⟩ := ofMag_logs x s r ht
  unfold Flow.start
  dsimp only
  split
  · refine ⟨turned, _, ⟨hl.trans (seed_logs x _ hnewest), ?_⟩, hturn⟩
    simp [GroundStart]
  · exact ⟨turned, false, .of_logs (hl.trans (.refl _)) (by simp) (by simp), hturn⟩

theorem flow_accounted :
    let o := Flow.control x s r
    ∃ turned ground, Accounted x r (once turned (some .attitude) ++ once ground none) o ∧
      Turned x turned s.status.yawAligned o.standing.status.yawAligned := by
  unfold Flow.control
  dsimp only
  split
  · split
    · next hw => exact flowStart_accounted x s r hw
    · split
      · exact ⟨false, false, .of_logs (Recorder.stop_logs r) (by simp) (by simp [Flow.giveUp]),
          .none x _⟩
      · exact ⟨false, false, .unchanged s, .none x _⟩
  · split
    · exact ⟨false, false, .of_logs (.refl r) (by simp) (by simp), .none x _⟩
    · exact ⟨false, false, .unchanged s, .none x _⟩

theorem resetBoth_logs :
    ∃ p v, r.Logs (once p (some .horizontalPosition) ++ once v (some .horizontalVelocity))
      (Gps.resetBoth x r).core := by
  unfold Gps.resetBoth
  obtain ⟨p, r₁, hp, l₁⟩ := Recorder.askPosition_logs r .gps x.histories
  obtain ⟨v, r₂, hv, l₂⟩ := Recorder.askVelocity_logs r₁ .gps x.histories
  simp only [hp, hv]
  split
  · exact ⟨p, v, l₁.trans l₂⟩
  · exact ⟨p, false, l₁.trans (.refl r₁)⟩

theorem activate_accounted :
    let o := Gps.activate x s r
    ∃ p v, Accounted x r (once p (some .horizontalPosition) ++ once v (some .horizontalVelocity))
      o ∧ o.standing.status.yawAligned = s.status.yawAligned := by
  unfold Gps.activate
  dsimp only
  split
  · exact ⟨false, false, .of_logs (.refl r) (by simp) (by simp), rfl⟩
  · obtain ⟨p, v, hl⟩ := resetBoth_logs x r
    split <;> exact ⟨p, v, .of_logs hl (by simp) (by simp), rfl⟩

theorem gpsStart_accounted (hw : Gps.wantsStart x s r = true) :
    let o := Gps.start x s r
    ∃ turned p v, Accounted x r (once turned (some .attitude) ++
        (once p (some .horizontalPosition) ++ once v (some .horizontalVelocity))) o ∧
      Turned x turned s.status.yawAligned o.standing.status.yawAligned := by
  simp only [Gps.wantsStart, Bool.and_eq_true] at hw
  obtain ⟨turned, hl, hturn⟩ := ofMag_logs x s r hw.1.1.1
  unfold Gps.start
  dsimp only
  split
  · obtain ⟨p, v, ha, hy⟩ := activate_accounted x (Alignment.ofMag x s r).standing
      (Alignment.ofMag x s r).core
    refine ⟨turned, p, v, .andThen (.of_logs hl (by simp) (by simp)) ha, ?_⟩
    rw [← hy] at hturn
    exact hturn
  · exact ⟨turned, false, false, .of_logs (hl.trans (.refl _)) (by simp) (by simp), hturn⟩

theorem recover_accounted :
    let o := Gps.recover x s r
    ∃ p v, Accounted x r (once p (some .horizontalPosition) ++ once v (some .horizontalVelocity))
      o ∧ o.standing.status.yawAligned = s.status.yawAligned := by
  unfold Gps.recover
  obtain ⟨v, r₁, hv, l₁⟩ := Recorder.askVelocity_logs r .gps x.histories
  obtain ⟨p, r₂, hp, l₂⟩ := Recorder.askPosition_logs r₁ .gps x.histories
  simp only [hv, hp]
  -- a recovery resets velocity first
  have hl := (l₁.trans l₂).perm List.perm_append_comm
  split <;> exact ⟨p, v, .of_logs hl (by simp) (by simp), rfl⟩

theorem gps_accounted :
    let o := Gps.control x s r
    ∃ turned p v, Accounted x r (once turned (some .attitude) ++
        (once p (some .horizontalPosition) ++ once v (some .horizontalVelocity))) o ∧
      Turned x turned s.status.yawAligned o.standing.status.yawAligned := by
  have idle : ∃ turned p v, Accounted x r (once turned (some .attitude) ++
      (once p (some .horizontalPosition) ++ once v (some .horizontalVelocity)))
        (.unchanged s r) ∧ Turned x turned s.status.yawAligned s.status.yawAligned :=
    ⟨false, false, false, .unchanged s, .none x _⟩
  unfold Gps.control
  dsimp only
  split
  · split
    · split
      · split
        · obtain ⟨p, v, ha, hy⟩ := recover_accounted x s r
          rw [hy]
          exact ⟨false, p, v, ha, .none x _⟩
        · exact ⟨false, false, false,
            .of_logs (Recorder.stop_logs r) (by simp) (by simp [Gps.giveUp]), .none x _⟩
      · exact idle
    · split
      · next hw => exact gpsStart_accounted x s r hw
      · exact idle
  · split
    · exact ⟨false, false, false, .of_logs (.refl r) (by simp) (by simp), .none x _⟩
    · exact idle

theorem watchTimeout_accounted :
    ∃ p v, Accounted x r (once p (some .verticalPosition) ++ once v (some .verticalVelocity))
      (Height.watchTimeout x s r) := by
  unfold Height.watchTimeout
  split
  · split
    · exact ⟨false, false, .of_logs (.refl r) (by simp) (by simp)⟩
    · next target _ =>
      unfold Height.resetTo
      obtain ⟨granted, r', descent, hask, -, hl⟩ := Recorder.askHeight_logs r target x.histories
      simp only [hask]
      refine ⟨granted, descent, ?_⟩
      split <;> exact .of_logs hl (by simp) (by simp)
  · exact ⟨false, false, .unchanged s⟩

theorem watchInertial_accounted : Accounted x r [] (Height.watchInertial x s r) := by
  unfold Height.watchInertial
  split
  · exact .of_logs (.refl r) (by simp) (by simp)
  · exact .unchanged s

theorem selectPreferred_accounted : Accounted x r [] (Height.selectPreferred x s r) := by
  unfold Height.selectPreferred
  dsimp only
  split
  · exact .of_logs (.refl r) (by simp) (by simp)
  · exact .unchanged s

theorem noteGround_accounted : Accounted x r [] (Height.noteGround x s r) := by
  unfold Height.noteGround
  split <;> exact .unchanged _

/-- Of the height controller only a timeout resets anything. -/
theorem height_accounted :
    ∃ p v, Accounted x r (once p (some .verticalPosition) ++ once v (some .verticalVelocity))
      (Height.control x s r) := by
  have inertial := watchInertial_accounted x s r
  obtain ⟨p, v, timeout⟩ := watchTimeout_accounted x (Height.watchInertial x s r).standing
    (Height.watchInertial x s r).core
  have whole := ((inertial.andThen timeout).andThen (selectPreferred_accounted x _ _)).andThen
    (noteGround_accounted x _ _)
  rw [List.append_nil, List.append_nil] at whole
  exact ⟨p, v, whole⟩

theorem settle_accounted :
    ∃ turned, Accounted x r (once turned (some .attitude)) (Mag.settle x s r) := by
  unfold Mag.settle Mag.enter
  split
  · exact ⟨false, .unchanged s⟩
  · dsimp only
    split
    · obtain ⟨granted, r', rs, hask, hl⟩ := Recorder.askHeadingFromMag_logs r x.histories
      rw [hask]
      exact ⟨granted, .of_logs hl (by simp) (by simp [Outcome.andThen, Outcome.unchanged])⟩
    · exact ⟨false, .unchanged _⟩

/-! ## The cycle -/

omit [Scalar α] in
/-- Up to the magnetometer controller at most one heading is set: that of the tilt stage needs tilt
not aligned before the cycle and the others need it aligned, and of these the first leaves nothing
to the next. -/
theorem turned_once {t y f g yaw yaw' yaw'' : Bool}
    (ht : t = true → x.before.tiltAligned = false)
    (hy : y = true → x.before.tiltAligned = true ∧ yaw = true)
    (hf : Turned x f yaw yaw') (hg : Turned x g yaw' yaw'') :
    t.toNat + y.toNat + f.toNat + g.toNat ≤ 1 := by
  obtain ⟨hf₁, hf₂, hf₃, hf₄⟩ := hf
  obtain ⟨hg₁, hg₂, -, -⟩ := hg
  cases t with
  | true =>
      have hb := ht rfl
      cases y <;> cases f <;> cases g <;> simp_all
  | false =>
      cases y <;> cases f <;> cases g <;> simp_all

/-- No kind of jump is logged more than twice in a cycle, and the outputs are aligned once at
most. -/
theorem settled_accounted (hs : s.status = x.before) :
    ∃ ks, Accounted x r ks (Arbiter.settled x s r) ∧ (∀ k, ks.count (some k) ≤ 2) ∧
      ks.count none ≤ 1 := by
  let o₁ := (Arbiter.refreshDeclination s r).andThen (Arbiter.watchTilt x)
  let o₂ := o₁.andThen (Vision.control x)
  let o₃ := o₂.andThen (Flow.control x)
  let o₄ := o₃.andThen (Gps.control x)
  let o₅ := o₄.andThen (Height.control x)
  have fresh : Accounted x r [] (Arbiter.refreshDeclination s r) :=
    .of_logs (Recorder.refreshDeclination_logs r) List.not_mem_nil List.not_mem_nil
  obtain ⟨t, tilt, ht⟩ := watchTilt_accounted x s (Arbiter.refreshDeclination s r).core
  obtain ⟨p, v, h, y, vision, hy⟩ := vision_accounted x o₁.standing o₁.core
  obtain ⟨f, ground, flow, hf⟩ := flow_accounted x o₂.standing o₂.core
  obtain ⟨g, p', v', gps, hg⟩ := gps_accounted x o₃.standing o₃.core
  obtain ⟨h', d, height⟩ := height_accounted x o₄.standing o₄.core
  obtain ⟨m, mag⟩ := settle_accounted x o₅.standing o₅.core
  have atMostOnce := turned_once x (fun e => (congrArg Status.tiltAligned hs).symm.trans (ht e)) hy
    hf hg
  refine ⟨_, ((((((fresh.andThen tilt).andThen vision).andThen flow).andThen gps).andThen
    height).andThen mag), fun k => ?_, ?_⟩
  · have atMost := @Bool.toNat_le
    simp only [List.nil_append, List.count_append, count_once]
    cases k with
    | attitude =>
        have := atMost m
        simp
        omega
    | horizontalPosition => simpa using Nat.add_le_add (atMost p) (atMost p')
    | horizontalVelocity => simpa using Nat.add_le_add (atMost v) (atMost v')
    | verticalPosition => simpa using Nat.add_le_add (atMost h) (atMost h')
    | verticalVelocity => simpa using Nat.le_succ_of_le (atMost d)
  · have hground := Bool.toNat_le ground
    simpa [List.count_append] using hground

end NavArbiter

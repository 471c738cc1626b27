/-
# Cores that answer alike

A map between two types of cores that respects the whole interface carries one cycle to the
other: the same standing, events and requests, and the core of the one is the image of the core of
the other (`Estimator.Hom.update`).  So the arbitration sees of a core what the interface shows and
nothing else, and a core may be watched through a richer one that only adds to it.

The other cycle may moreover be made later, by the same for all times: the clock, the samples, the
health record and the buffered outputs.  A map respects the interface up to a shift `d`; without
one, `d` is zero.
-/
import NavArbiter.Proofs.TimeShift

namespace NavArbiter

variable {α C D : Type}

/-- The same answer, with the core carried along. -/
def Reply.map (φ : C → D) (r : Reply C) : Reply D := ⟨r.granted, φ r.core, r.requests⟩

/-- The same outcome, with the core carried along. -/
def Outcome.map (φ : C → D) (o : Outcome α C) : Outcome α D :=
  ⟨o.standing, φ o.core, o.events, o.requests⟩

theorem Outcome.map_ite (φ : C → D) (p : Prop) [Decidable p] (o o' : Outcome α C) :
    (if p then o else o').map φ = if p then o.map φ else o'.map φ := by
  split <;> rfl

/-- The same cycle, with the core carried along. -/
def Cycle.map (φ : C → D) (y : Cycle α C) : Cycle α D :=
  ⟨y.arbiter, φ y.core, y.events, y.requests⟩

/-- The cycle with the times in its arbiter put later. -/
def Cycle.shift (d : Nat) (y : Cycle α C) : Cycle α C := { y with arbiter := y.arbiter.shift d }

@[simp] theorem Cycle.shift_zero (y : Cycle α C) : y.shift 0 = y := by
  unfold Cycle.shift
  rw [Arbiter.shift_zero]

/-- A stage does the same to both cores, to the second one later. -/
def Natural (d : Nat) (φ : C → D) (f : Standing α → C → Outcome α C)
    (g : Standing α → D → Outcome α D) : Prop :=
  ∀ s c, g (s.shift d) (φ c) = ((f s c).map φ).shift d

theorem Natural.andThen {d : Nat} {φ : C → D} {f f' : Standing α → C → Outcome α C}
    {g g' : Standing α → D → Outcome α D} (h : Natural d φ f g) (h' : Natural d φ f' g') :
    Natural d φ (fun s c => (f s c).andThen f') fun s e => (g s e).andThen g' := by
  intro s c
  dsimp only
  rw [h s c]
  have hr := h' (f s c).standing (f s c).core
  simp only [Outcome.andThen, Outcome.map, Outcome.shift] at hr ⊢
  rw [hr]

/-- The map `φ` respects every operation of the interface, with times put later. -/
structure Estimator.Hom [Estimator α C] [Estimator α D] (d : Nat) (φ : C → D) : Prop where
  nav : ∀ c, Estimator.nav (φ c) = Estimator.nav c
  setNav : ∀ c n, Estimator.setNav (φ c) n = φ (Estimator.setNav c n)
  covariance : ∀ c, Estimator.covariance (φ c) = Estimator.covariance c
  setCovariance : ∀ c p, Estimator.setCovariance (φ c) p = φ (Estimator.setCovariance c p)
  rotationVariances : ∀ c, Estimator.rotationVariances (φ c) = Estimator.rotationVariances c
  innovation : ∀ c k, Estimator.innovation (φ c) k = Estimator.innovation c k
  testRatio : ∀ c k, Estimator.testRatio (φ c) k = Estimator.testRatio c k
  terrain : ∀ c, Estimator.terrain (φ c) = Estimator.terrain c
  originSet : ∀ c, Estimator.originSet (φ c) = Estimator.originSet c
  refreshDeclination : ∀ c,
    Estimator.refreshDeclination (φ c) = φ (Estimator.refreshDeclination c)
  flowVariance : ∀ c w,
    Estimator.flowVariance (φ c) (Shiftable.shift d w) = Estimator.flowVariance c w
  baroOffset : ∀ c, Estimator.baroOffset (φ c) = Estimator.baroOffset c
  heightOffset : ∀ c, Estimator.heightOffset (φ c) = Estimator.heightOffset c
  resetPosition : ∀ c s h, Estimator.resetPosition (φ c) s (Histories.shift d h) =
    (Estimator.resetPosition c s h).map id φ
  resetVelocity : ∀ c s h, Estimator.resetVelocity (φ c) s (Histories.shift d h) =
    (Estimator.resetVelocity c s h).map id φ
  resetHeight : ∀ c s h, Estimator.resetHeight (φ c) s (Histories.shift d h) =
    (Estimator.resetHeight c s h).map id φ
  resetHeading : ∀ c m, Estimator.resetHeading (φ c) m = (Estimator.resetHeading c m).map id φ
  alignOutputs : ∀ c, Estimator.alignOutputs (φ c) = φ (Estimator.alignOutputs c)
  outputs : ∀ c, Estimator.outputs (φ c) = (Estimator.outputs c).shift d
  setOutputs : ∀ c o, Estimator.setOutputs (φ c) (o.shift d) = φ (Estimator.setOutputs c o)
  jumps : ∀ c, Estimator.jumps (φ c) = Estimator.jumps c
  setJumps : ∀ c l, Estimator.setJumps (φ c) l = φ (Estimator.setJumps c l)

namespace Estimator.Hom

variable [Estimator α C] [Estimator α D] {d : Nat} {φ : C → D} (hφ : Hom d φ)

include hφ

/-! ## Requests and writes -/

theorem askPosition (c : C) (source : HorizontalSource) (h : Histories α) :
    Estimator.askPosition (φ c) source (Histories.shift d h) =
      (Estimator.askPosition c source h).map φ := by
  simp only [Estimator.askPosition, hφ.resetPosition]
  rfl

theorem askVelocity (c : C) (source : HorizontalSource) (h : Histories α) :
    Estimator.askVelocity (φ c) source (Histories.shift d h) =
      (Estimator.askVelocity c source h).map φ := by
  simp only [Estimator.askVelocity, hφ.resetVelocity]
  rfl

theorem askHeight (c : C) (source : HeightSource) (h : Histories α) :
    Estimator.askHeight (φ c) source (Histories.shift d h) =
      (Estimator.askHeight c source h).map φ := by
  simp only [Estimator.askHeight, hφ.resetHeight]
  rfl

theorem askHeadingFromMag (c : C) (h : Histories α) :
    Estimator.askHeadingFromMag (φ c) (Histories.shift d h) =
      (Estimator.askHeadingFromMag c h).map φ := by
  unfold Estimator.askHeadingFromMag
  rw [show (Histories.shift d h).mag = h.mag.shift d from rfl, History.newest?_shift]
  cases h.mag.newest? with
  | none => rfl
  | some m =>
      simp only [Option.map_some, Estimator.askHeading, hφ.resetHeading]
      rfl

theorem variance (c : C) (k : Component) :
    Estimator.variance (φ c) k = Estimator.variance c k :=
  congrArg (fun p => p.variance k.state) (hφ.covariance c)

theorem setVariance (c : C) (k : Component) (a : α) :
    Estimator.setVariance (φ c) k a = φ (Estimator.setVariance c k a) := by
  simp only [Estimator.setVariance, hφ.covariance, hφ.setCovariance]

theorem setHorizontalPosition (c : C) (p : Vec2 α) :
    Estimator.setHorizontalPosition (φ c) p = φ (Estimator.setHorizontalPosition c p) := by
  simp only [Estimator.setHorizontalPosition, hφ.nav, hφ.setNav]

theorem setHorizontalVelocity (c : C) (v : Vec2 α) :
    Estimator.setHorizontalVelocity (φ c) v = φ (Estimator.setHorizontalVelocity c v) := by
  simp only [Estimator.setHorizontalVelocity, hφ.nav, hφ.setNav]

theorem dropJumps (c : C) : Estimator.dropJumps (φ c) = φ (Estimator.dropJumps c) := by
  simp only [Estimator.dropJumps, hφ.jumps, hφ.setJumps]

theorem recordJump (c : C) (j : Jump α) :
    Estimator.recordJump (φ c) j = φ (Estimator.recordJump c j) := by
  simp only [Estimator.recordJump, hφ.jumps, hφ.setJumps]

theorem ofMag (x : Context α) (s : Standing α) (c : C) :
    let a := Alignment.ofMag x s c
    Alignment.ofMag (x.shift d) (s.shift d) (φ c) =
      ⟨a.standing.shift d, φ a.core, a.requests⟩ := by
  simp only [Alignment.ofMag, Standing.shift_status, Context.shift_histories,
    hφ.askHeadingFromMag]
  split <;> rfl

variable [Scalar α]

theorem clearBlock (c : C) (first last : Nat) :
    Estimator.clearBlock (φ c) first last = φ (Estimator.clearBlock c first last) := by
  simp only [Estimator.clearBlock, hφ.covariance, hφ.setCovariance]

theorem stop (c : C) : Estimator.stop (φ c) = φ (Estimator.stop c) := by
  simp only [Estimator.stop, hφ.nav, hφ.setNav]

theorem applyJumps (c : C) : Estimator.applyJumps (φ c) = φ (Estimator.applyJumps c) := by
  simp only [Estimator.applyJumps, hφ.dropJumps, hφ.jumps, hφ.outputs, Jump.applyAll_shift,
    hφ.setOutputs]

/-! ## Stages -/

variable (x : Context α)

theorem tiltConverged (settings : Settings α) (c : C) :
    Arbiter.tiltConverged settings (φ c) = Arbiter.tiltConverged settings c := by
  simp only [Arbiter.tiltConverged, hφ.rotationVariances]

theorem watchTilt :
    Natural d φ (Arbiter.watchTilt (C := C) x) (Arbiter.watchTilt (x.shift d)) := by
  intro s c
  simp only [Arbiter.watchTilt, Standing.shift_status, Context.shift_settings,
    Context.shift_histories, hφ.tiltConverged, hφ.askHeadingFromMag, Outcome.map_ite,
    Outcome.shift_ite]
  rfl

omit [Scalar α] in
theorem takePosition :
    Natural d φ (Vision.takePosition (C := C) x) (Vision.takePosition (x.shift d)) := by
  intro s c
  simp only [Vision.takePosition, Vision.wantsPosition_shift, Context.shift_histories,
    hφ.askPosition, hφ.askVelocity, hφ.askHeight, Reply.map, Outcome.map_ite, Outcome.shift_ite]
  rfl

theorem turnTo (c : C) (yaw : α) : Vision.turnTo (φ c) yaw = φ (Vision.turnTo c yaw) := by
  simp only [Vision.turnTo, hφ.nav, hφ.setNav, hφ.recordJump]

theorem takeYaw : Natural d φ (Vision.takeYaw (C := C) x) (Vision.takeYaw (x.shift d)) := by
  intro s c
  simp only [Vision.takeYaw, Vision.wantsYaw_shift, hφ.nav, hφ.turnTo, Outcome.map_ite,
    Outcome.shift_ite]
  rw [show (x.shift d).histories.vision = x.histories.vision.shift d from rfl,
    History.newest?_shift]
  cases x.histories.vision.newest? <;> rfl

theorem vision : Natural d φ (Vision.control (C := C) x) (Vision.control (x.shift d)) :=
  (hφ.takePosition x).andThen (hφ.takeYaw x)

theorem groundRange (c : C) : Flow.groundRange (x.shift d) (φ c) = Flow.groundRange x c := by
  simp only [Flow.groundRange, Context.shift_settings, hφ.nav, hφ.terrain]

theorem velocityOf (c : C) (range : α) (w : FlowSample α) :
    Flow.velocityOf (x.shift d) (φ c) range (Shiftable.shift d w) =
      Flow.velocityOf x c range w := by
  simp only [Flow.velocityOf, Context.shift_settings, hφ.nav]
  rfl

theorem seedVelocity (c : C) (w : FlowSample α) :
    Flow.seedVelocity (x.shift d) (φ c) (Shiftable.shift d w) =
      φ (Flow.seedVelocity x c w) := by
  simp only [Flow.seedVelocity, hφ.groundRange, hφ.velocityOf, hφ.flowVariance,
    hφ.setHorizontalVelocity, hφ.clearBlock, hφ.setVariance]

theorem seedOrigin (c : C) : Flow.seedOrigin (φ c) = φ (Flow.seedOrigin c) := by
  simp only [Flow.seedOrigin, hφ.setHorizontalPosition, hφ.clearBlock, hφ.setVariance,
    hφ.dropJumps, hφ.alignOutputs]

theorem seed (c : C) :
    Flow.seed (x.shift d) (φ c) = (φ (Flow.seed x c).1, (Flow.seed x c).2) := by
  unfold Flow.seed
  rw [show (x.shift d).histories.flow = x.histories.flow.shift d from rfl, History.newest?_shift,
    Context.shift_before]
  split
  · rfl
  · cases x.histories.flow.newest? with
    | none => rfl
    | some w =>
        simp only [Option.map_some, hφ.seedVelocity, hφ.seedOrigin]
        split <;> rfl

theorem flowStart : Natural d φ (Flow.start (C := C) x) (Flow.start (x.shift d)) := by
  intro s c
  simp only [Flow.start, hφ.ofMag, hφ.seed, Standing.shift_status, Outcome.map_ite,
    Outcome.shift_ite, Standing.mapHealth, Standing.mapStatus, Standing.shift_health,
    Context.shift_now, Health.recordFusion_shift]
  rfl

theorem flow : Natural d φ (Flow.control (C := C) x) (Flow.control (x.shift d)) := by
  intro s c
  simp only [Flow.control, Flow.giveUp, Flow.wantsStart_shift, Flow.isLost_shift,
    Context.shift_settings, Context.shift_before, hφ.flowStart x s c, hφ.nav, hφ.stop,
    Outcome.map_ite, Outcome.shift_ite]
  rfl

omit [Scalar α] in
theorem resetBoth (c : C) : Gps.resetBoth (x.shift d) (φ c) = (Gps.resetBoth x c).map φ := by
  simp only [Gps.resetBoth, Context.shift_histories, hφ.askPosition, hφ.askVelocity, Reply.map]
  split <;> rfl

omit [Scalar α] in
theorem activate : Natural d φ (Gps.activate (C := C) x) (Gps.activate (x.shift d)) := by
  intro s c
  simp only [Gps.activate, hφ.resetBoth, Context.shift_before, Outcome.map_ite,
    Outcome.shift_ite, Standing.mapHealth, Standing.mapStatus, Standing.shift_health,
    Context.shift_now, Health.recordFailure_shift]
  rfl

omit [Scalar α] in
theorem gpsStart : Natural d φ (Gps.start (C := C) x) (Gps.start (x.shift d)) := by
  intro s c
  have hr := hφ.activate x (Alignment.ofMag x s c).standing (Alignment.ofMag x s c).core
  simp only [Gps.start, hφ.ofMag, Outcome.andThen, hr, Standing.shift_status, Outcome.map_ite,
    Outcome.shift_ite]
  rfl

omit [Scalar α] in
theorem wantsStart (s : Standing α) (c : C) :
    Gps.wantsStart (x.shift d) (s.shift d) (φ c) = Gps.wantsStart x s c := by
  simp only [Gps.wantsStart, Gps.fresh_shift, Context.shift_before, Context.shift_settings,
    Context.shift_now, Standing.shift_health, Health.canRetry_shift, hφ.originSet]

theorem gps : Natural d φ (Gps.control (C := C) x) (Gps.control (x.shift d)) := by
  intro s c
  simp only [Gps.control, Gps.recover, Gps.giveUp, Gps.timedOut_shift, Gps.fresh_shift,
    Context.shift_settings, Context.shift_before, Context.shift_histories, hφ.wantsStart,
    hφ.gpsStart x s c, hφ.askVelocity, hφ.askPosition, Reply.map, hφ.nav, hφ.stop,
    Outcome.map_ite, Outcome.shift_ite]
  rfl

theorem inertialFault (c : C) :
    Height.inertialFault (x.shift d) (φ c) = Height.inertialFault x c := by
  have baro := x.horizonFresh_shift d x.histories.baro
  have gps := x.horizonFresh_shift d x.histories.gps
  simp only [Height.inertialFault, hφ.innovation, hφ.testRatio, Context.shift_settings]
  rw [show (x.shift d).histories.baro = x.histories.baro.shift d from rfl,
    show (x.shift d).histories.gps = x.histories.gps.shift d from rfl, baro, gps]

theorem watchInertial :
    Natural d φ (Height.watchInertial (C := C) x) (Height.watchInertial (x.shift d)) := by
  intro s c
  simp only [Height.watchInertial, hφ.inertialFault, Context.shift_before, Outcome.map_ite,
    Outcome.shift_ite]
  rfl

theorem timedOut (s : Standing α) (c : C) :
    Height.timedOut (x.shift d) (s.shift d) (φ c) = Height.timedOut x s c := by
  simp only [Height.timedOut, Context.shift_settings, Context.shift_now, Standing.shift_health,
    Health.since_shift, hφ.variance]

theorem baroConsistent (c : C) :
    Height.baroConsistent (x.shift d) (φ c) = Height.baroConsistent x c := by
  unfold Height.baroConsistent
  rw [show (x.shift d).histories.baro = x.histories.baro.shift d from rfl, History.newest?_shift]
  cases x.histories.baro.newest? with
  | none => rfl
  | some b =>
      simp only [Option.map_some, hφ.heightOffset, hφ.baroOffset, hφ.nav, hφ.variance]
      rfl

theorem facts (s : Standing α) (c : C) :
    Height.facts (x.shift d) (s.shift d) (φ c) = Height.facts x s c := by
  simp only [Height.facts, Height.sourceFresh_shift, Height.gpsAccurate_shift, hφ.baroConsistent,
    Context.shift_before, Context.shift_settings, Context.shift_now, Standing.shift_health,
    Health.isFaulty_shift, Health.since_shift]

omit [Scalar α] in
theorem resetTo (target : HeightSource) :
    Natural d φ (Height.resetTo (C := C) x target) (Height.resetTo (x.shift d) target) := by
  intro s c
  simp only [Height.resetTo, Context.shift_before, Context.shift_histories, hφ.askHeight,
    Reply.map, Outcome.map_ite, Outcome.shift_ite, Standing.mapHealth, Standing.mapStatus,
    Standing.shift_health, Context.shift_now, Health.healthAfterReset_shift]
  rfl

theorem watchTimeout :
    Natural d φ (Height.watchTimeout (C := C) x) (Height.watchTimeout (x.shift d)) := by
  intro s c
  simp only [Height.watchTimeout, hφ.timedOut, hφ.facts, Outcome.map_ite, Outcome.shift_ite]
  cases Height.choose (Height.facts x s c) with
  | none => rfl
  | some target =>
      dsimp only
      rw [hφ.resetTo x target s c]
      rfl

omit [Estimator α C] [Estimator α D] hφ [Scalar α] in
theorem selectPreferred :
    Natural d φ (Height.selectPreferred (C := C) x) (Height.selectPreferred (x.shift d)) := by
  intro s c
  simp only [Height.selectPreferred, Context.shift_settings, Standing.shift_status,
    Height.sound_shift, Height.presentAtHorizon_shift, Outcome.map_ite, Outcome.shift_ite]
  rfl

omit [Scalar α] in
theorem noteGround :
    Natural d φ (Height.noteGround (C := C) x) (Height.noteGround (x.shift d)) := by
  intro s c
  simp only [Height.noteGround, Context.shift_before, hφ.nav, Outcome.map_ite, Outcome.shift_ite]
  rfl

theorem height : Natural d φ (Height.control (C := C) x) (Height.control (x.shift d)) :=
  (((hφ.watchInertial x).andThen (hφ.watchTimeout x)).andThen (selectPreferred x)).andThen
    (hφ.noteGround x)

theorem autoThreeAxis (s : Standing α) (c : C) :
    Mag.autoThreeAxis (x.shift d) (s.shift d) (φ c) = Mag.autoThreeAxis x s c := by
  simp only [Mag.autoThreeAxis, Context.shift_before, Context.shift_settings, hφ.nav]
  rfl

theorem target (s : Standing α) (c : C) :
    Mag.target (x.shift d) (s.shift d) (φ c) = Mag.target x s c := by
  simp only [Mag.target, Context.shift_settings, hφ.autoThreeAxis]

omit [Scalar α] in
theorem enter (mode : MagMode) :
    Natural d φ (Mag.enter (C := C) x mode) (Mag.enter (x.shift d) mode) := by
  intro s c
  simp only [Mag.enter, Standing.shift_status, Context.shift_histories, hφ.askHeadingFromMag,
    Outcome.map_ite, Outcome.shift_ite]
  rfl

theorem settle : Natural d φ (Mag.settle (C := C) x) (Mag.settle (x.shift d)) := by
  intro s c
  have decided : Natural d φ
      (fun t b => .unchanged { t with status := Mag.decideStatus x (Mag.target x s c) t } b)
      fun t e => .unchanged
        { t with status := Mag.decideStatus (x.shift d) (Mag.target x s c) t } e := by
    intro t b
    dsimp only
    rw [Mag.decideStatus_shift]
    rfl
  have he := (hφ.enter x (Mag.target x s c)).andThen decided s c
  dsimp only at he
  simp only [Mag.settle, Standing.shift_status, hφ.target, Outcome.map_ite, Outcome.shift_ite, he]
  rfl

theorem mag : Natural d φ (Mag.control (C := C) x) (Mag.control (x.shift d)) :=
  (hφ.settle x).andThen fun _ _ => rfl

theorem controllers :
    Natural d φ (Arbiter.controllers (C := C) x) (Arbiter.controllers (x.shift d)) :=
  ((((hφ.vision x).andThen (hφ.flow x)).andThen (hφ.gps x)).andThen (hφ.height x)).andThen
    (hφ.mag x)

/-- A cycle on one core is the image of the cycle on the other. -/
theorem update (a : Arbiter α) (clock : Clock) (h : Histories α) (c : C) :
    (a.shift d).update (clock.shift d) (Histories.shift d h) (φ c) =
      ((a.update clock h c).map φ).shift d := by
  have first : Natural d φ (Arbiter.refreshDeclination (α := α) (C := C))
      Arbiter.refreshDeclination := fun s c => by
    rw [Arbiter.refreshDeclination, hφ.refreshDeclination]
    rfl
  have whole (x : Context α) := (first.andThen (hφ.watchTilt x)).andThen (hφ.controllers x)
  have hw := whole ⟨clock, a.settings, h, a.standing.status⟩ a.standing c
  dsimp only at hw
  unfold Arbiter.update
  dsimp only
  rw [show (⟨clock.shift d, (a.shift d).settings, Histories.shift d h,
      (a.shift d).standing.status⟩ : Context α) =
        Context.shift d ⟨clock, a.settings, h, a.standing.status⟩ from rfl,
    show (a.shift d).standing = a.standing.shift d from rfl, hw]
  simp only [Outcome.shift, Outcome.map, hφ.applyJumps]
  rfl

end Estimator.Hom

end NavArbiter

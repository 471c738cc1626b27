/-
# The covariance stays a covariance

In exact arithmetic the covariance of the gated filter is symmetric and positive semidefinite
whatever is done to the filter, so no variance is ever negative.  Quotients go into it, directly or
through the attitude, and in an arithmetic that can fail (`PartialReal`) each has to be shown to
exist:

    divisor                         in                zero is excluded by
    variance of the innovation      a correction      the gate
    cosine of the pitch             a turn            a reading of its own at the poles
    cosine of the tilt              a start of flow   all turns being about the vertical
    distance of the least quality   a start of flow   nothing but the setting
      of flow from the best

With a least quality of 255 the last is zero, and a start of flow leaves no variance of velocity at
all (`covariance_fullQuality`).  Below it is asked only that predictions do not go backwards in time
and that whatever variances and attitudes are made of is a number.  A position that is measured may
be anything, since no variance hangs on it.

`Sound` is the invariant.  Besides the covariance it holds what turns and starts of flow are
computed from, and there is one case for each act of a fusion, of a reset and of a cycle.
-/
import NavArbiter.Proofs.CovarianceMatrix
import NavArbiter.Proofs.FlowDivisors
import NavArbiter.Proofs.HeightChoice

namespace NavArbiter

open PartialReal

/-! ## Matrices of numbers -/

namespace Covariance

/-- Every entry is a number, and the matrix of them is positive semidefinite. -/
def Semidefinite (p : Covariance PartialReal) : Prop :=
  ∃ r : Covariance ℝ, (∀ i j, p.get i j = value (r.get i j)) ∧ r.toMatrix.PosSemidef

variable {p : Covariance PartialReal}

theorem semidefinite_diagonal {d : Fin stateDim → ℝ} (h : ∀ i, 0 ≤ d i) :
    Semidefinite (diagonal fun i => value (d i)) := by
  refine ⟨diagonal d, fun i j => ?_, posSemidef_diagonal h⟩
  rw [diagonal, diagonal, get_ofEntries, get_ofEntries, apply_ite value]
  rfl

theorem Semidefinite.inflate (h : p.Semidefinite) (first last : Nat) {a : ℝ} (ha : 0 ≤ a) :
    (p.inflate first last (value a)).Semidefinite := by
  obtain ⟨r, entries, semidefinite⟩ := h
  refine ⟨r.inflate first last a, fun i j => ?_, posSemidef_inflate semidefinite first last ha⟩
  rw [Covariance.inflate, Covariance.inflate, get_ofEntries, get_ofEntries, entries, value_add,
    apply_ite value]

/-- A block cleared, and variances written in two of its states, which may be one. -/
theorem Semidefinite.isolate (h : p.Semidefinite) {first last : Nat} {i j : Fin stateDim}
    (hi : first ≤ i.val ∧ i.val ≤ last) (hj : first ≤ j.val ∧ j.val ≤ last) {a : ℝ} (ha : 0 ≤ a) :
    (((p.clearBlock first last).setVariance i (value a)).setVariance j (value a)).Semidefinite := by
  obtain ⟨r, entries, semidefinite⟩ := h
  refine ⟨((r.clearBlock first last).setVariance i a).setVariance j a, fun k l => ?_,
    posSemidef_isolate semidefinite hi hj ha⟩
  simp only [setVariance, get_set, clearBlock, get_ofEntries, entries, apply_ite value]
  rfl

/-- A correction by a measurement without a negative variance, past the guard of the gate. -/
theorem Semidefinite.correct (h : p.Semidefinite) (k : Fin stateDim) {v : ℝ} (hv : 0 ≤ v)
    (passed : ¬ p.variance k + value v ≤ 0.0) :
    (p.correct k (p.variance k + value v)).Semidefinite := by
  obtain ⟨r, entries, semidefinite⟩ := h
  have total : p.variance k + value v = value (r.variance k + v) := by
    rw [variance, entries, value_add]
    rfl
  have positive : 0 < r.variance k + v := by
    refine lt_of_not_ge fun le => passed ?_
    rw [total]
    show _ ≤ (0.0 : ℝ)
    norm_num
    exact le
  refine ⟨r.correct k (r.variance k + v), fun i j => ?_,
    posSemidef_correct semidefinite k hv positive⟩
  rw [total, Covariance.correct, Covariance.correct, get_ofEntries, get_ofEntries, entries, entries,
    entries, value_div positive.ne', value_mul, value_sub]

end Covariance

/-! ## What is measured -/

/-- Accuracies, and the attitudes of vision, are numbers. -/
structure Histories.Defined (h : Histories PartialReal) : Prop where
  gps : ∀ g ∈ h.gps.samples, Scalar.isFinite g.horizontalAccuracy = true ∧
    Scalar.isFinite g.verticalAccuracy = true ∧ Scalar.isFinite g.speedAccuracy = true
  vision : ∀ v ∈ h.vision.samples, Scalar.isFinite v.positionError = true ∧
    ∃ q : Attitude ℝ, v.attitude = .ofReal q

theorem Histories.defined_of_silent {h : Histories PartialReal} (gps : h.gps.samples = [])
    (vision : h.vision.samples = []) : h.Defined where
  gps _ seen := absurd (gps ▸ seen) List.not_mem_nil
  vision _ seen := absurd (vision ▸ seen) List.not_mem_nil

/-- The variance of a sample is a number, and not a negative one. -/
theorem SampleVariance.defined {noise variance : PartialReal} {h : Histories PartialReal}
    (sample : SampleVariance noise h variance) (measured : h.Defined)
    (baro : Scalar.isFinite noise = true) : ∃ v, variance = value v ∧ 0 ≤ v := by
  cases sample with
  | @square a accuracy =>
      have finite : Scalar.isFinite a = true := by
        cases accuracy with
        | baro => exact baro
        | horizontal seen => exact (measured.gps _ seen).1
        | vertical seen => exact (measured.gps _ seen).2.1
        | speed seen => exact (measured.gps _ seen).2.2
        | pose seen => exact (measured.vision _ seen).1
      obtain ⟨r, rfl⟩ := isFinite_iff.mp finite
      exact ⟨r * r, rfl, mul_self_nonneg r⟩
  | distance => exact ⟨0.01, rfl, by norm_num⟩
  | rest => exact ⟨0.25, rfl, by norm_num⟩

/-- What a filter and a start of flow read of settings are numbers. -/
structure Settings.Defined (s : Settings PartialReal) : Prop where
  baroNoise : Scalar.isFinite s.baroNoise = true
  flowNoise : Scalar.isFinite s.flowNoise = true
  flowNoiseWorst : Scalar.isFinite s.flowNoiseWorst = true
  groundClearance : Scalar.isFinite s.groundClearance = true

theorem Settings.InRange.defined {s : Settings PartialReal} (h : s.InRange) : s.Defined :=
  ⟨h.baroNoise.1, h.flowNoise.1, h.flowNoiseWorst.1, h.groundClearance.1⟩

namespace GatedFilter

/-! ## The invariant -/

/-- The covariance is one, and what is computed into it later exists. -/
structure Sound (f : GatedFilter PartialReal) : Prop where
  covariance : f.covariance.Semidefinite
  level : f.nav.attitude.Tilted 1
  declination : Scalar.isFinite f.declination = true
  baroNoise : Scalar.isFinite f.baroNoise = true
  flow : ∀ w, ∃ v, f.flowVariance w = value v ∧ 0 ≤ v

variable {f f' : GatedFilter PartialReal}

theorem initialVariance_nonneg (i : Fin stateDim) : 0 ≤ (initialVariance i : ℝ) := by
  show (0 : ℝ) ≤ if i.val ≤ 3 then 0.1 else if i.val ≤ 6 then 1.0 else if i.val ≤ 9 then 25.0
    else 1e-3
  split_ifs <;> norm_num

theorem initialVariance_value (i : Fin stateDim) :
    initialVariance i = value (initialVariance i) := by
  unfold initialVariance initialRotationVariance
  simp only [apply_ite value]
  rfl

theorem tilted_identity : (Attitude.identity : Attitude PartialReal).Tilted 1 := by
  refine ⟨.identity, rfl, Attitude.isUnit_identity, ?_⟩
  rw [Attitude.tiltCosine_eq]
  norm_num [Attitude.identity]

theorem sound_ofSettings {s : Settings PartialReal} (defined : s.Defined)
    (distant : s.flowMinQuality ≠ 255) : (ofSettings s).Sound where
  covariance := by
    have diagonal := Covariance.semidefinite_diagonal initialVariance_nonneg
    rw [← funext initialVariance_value] at diagonal
    exact diagonal
  level := tilted_identity
  declination := rfl
  baroNoise := defined.baroNoise
  flow w := by
    obtain ⟨best, hb⟩ := isFinite_iff.mp defined.flowNoise
    obtain ⟨worst, hw⟩ := isFinite_iff.mp defined.flowNoiseWorst
    exact ⟨_, flowVariance_value hb hw distant w, sq_nonneg _⟩

theorem Sound.withCovariance (h : f.Sound) {p : Covariance PartialReal} (hp : p.Semidefinite) :
    Sound { f with covariance := p } := { h with covariance := hp }

/-- Outputs and logged jumps have no part in it. -/
theorem Sound.withOutputs (h : f.Sound) (outputs : History (OutputSample PartialReal))
    (jumps : JumpLog PartialReal) : Sound { f with outputs, jumps } := { h with }

theorem sound_predict (h : f.Sound) (now : Time) {dt : ℝ} (hdt : 0 ≤ dt) (atRest : Bool) :
    (f.predict now (value dt) atRest).Sound := by
  have position : 0 ≤ (0.05 : ℝ) * dt := by positivity
  have velocity : 0 ≤ (0.1 : ℝ) * dt := by positivity
  exact { h with covariance := (h.covariance.inflate 7 9 position).inflate 4 6 velocity }

/-! ## Corrections -/

theorem sound_correct (h : f.Sound) (k : Component) (measured : PartialReal) {v : ℝ} (hv : 0 ≤ v) :
    (f.correct k measured (value v)).2.Sound := by
  unfold correct
  dsimp only
  split
  · exact h
  · next passed =>
    exact { h with
      covariance := h.covariance.correct k.state hv fun closed => passed (Or.inr closed)
      level := by cases k <;> exact h.level }

theorem sound_fusionAct {samples : Histories PartialReal} (defined : samples.Defined)
    (h : f.Sound) (act : FusionAct samples f f') : f'.Sound := by
  cases act with
  | consume | recordVerdict | measureTerrain => exact { h with }
  | correct k measured sample =>
      obtain ⟨v, rfl, hv⟩ := sample.defined defined h.baroNoise
      exact sound_correct h k measured hv

theorem sound_fuseActive (h : f.Sound) (health : Health) (i : FusionInput PartialReal)
    (defined : i.histories.Defined) : (f.fuseActive health i).core.Sound :=
  kept_of_acts (f.fuseActive_acts health i) (sound_fusionAct defined) h

/-! ## Resets -/

theorem Sound.isolate (h : f.Sound) {first last : Component} {v : ℝ}
    (hle : first.state ≤ last.state) (hv : 0 ≤ v) : (f.isolate first last (value v)).Sound :=
  h.withCovariance (h.covariance.isolate ⟨le_rfl, hle⟩ ⟨hle, le_rfl⟩ hv)

theorem sound_resetAct {samples : Histories PartialReal} (defined : samples.Defined)
    (h : f.Sound) (act : ResetAct samples f f') : f'.Sound := by
  have level := tilted_resetAct h.level h.declination act
  cases act with
  | moveTo p sample =>
      obtain ⟨variance, rfl, hv⟩ := sample.defined defined h.baroNoise
      have moved : Sound { f with nav := f.nav.withHorizontalPosition p } := { h with }
      exact (moved.isolate (by decide) hv).withOutputs _ _
  | setSpeed v sample =>
      obtain ⟨variance, rfl, hv⟩ := sample.defined defined h.baroNoise
      have moved : Sound { f with nav := f.nav.withHorizontalVelocity v } := { h with }
      exact (moved.isolate (by decide) hv).withOutputs _ _
  | moveDownTo down sample =>
      obtain ⟨variance, rfl, hv⟩ := sample.defined defined h.baroNoise
      have moved : Sound { f with nav := f.nav.set .posDown down } := { h with }
      exact (moved.isolate le_rfl hv).withOutputs _ _
  | setDescent speed sample =>
      obtain ⟨variance, rfl, hv⟩ := sample.defined defined h.baroNoise
      have moved : Sound { f with nav := f.nav.set .velDown speed } := { h with }
      exact (moved.isolate le_rfl hv).withOutputs _ _
  | turn => exact { h with level }

theorem sound_resets {samples : Histories PartialReal} (defined : samples.Defined) (h : f.Sound)
    (acts : ResetActs samples f f') : f'.Sound := kept_of_acts acts (sound_resetAct defined) h

/-! ## Cycles -/

/-- The declination is only taken from a field whose horizontal part is known. -/
theorem sound_refreshDeclination (h : f.Sound) : f.refreshDeclination.Sound := by
  unfold refreshDeclination
  dsimp only
  split
  · next level =>
    have declination : Scalar.isFinite (Scalar.atan2 f.nav.magEarth.y f.nav.magEarth.x) = true := by
      cases hx : f.nav.magEarth.x <;> cases hy : f.nav.magEarth.y <;> rw [hx, hy] at level
      case value.value => rfl
      all_goals exact absurd level (not_lt_undefined _)
    exact { h with declination }
  · exact h

section Cycle

variable {x : Context PartialReal} {w : FlowSample PartialReal}

theorem sound_seedVelocity (h : f.Sound)
    (clearance : Scalar.isFinite x.settings.groundClearance = true) :
    (Flow.seedVelocity x f w).Sound := by
  obtain ⟨height, quotient⟩ := Flow.groundRange_eq clearance h.level
  obtain ⟨v, noise, hv⟩ := h.flow w
  have variance : Flow.groundRange x f * Flow.groundRange x f * f.flowVariance w =
      value (height / 1 * (height / 1) * v) := by
    rw [quotient, value_div one_ne_zero, noise, value_mul, value_mul]
  let shown := Flow.velocityOf x f (Flow.groundRange x f) w
  let moved : GatedFilter PartialReal := { f with nav := f.nav.withHorizontalVelocity shown }
  have sound : moved.Sound := { h with }
  have isolated :
      (moved.isolate .velNorth .velEast (value (height / 1 * (height / 1) * v))).Sound :=
    sound.isolate (by decide) (mul_nonneg (mul_self_nonneg _) hv)
  rw [← variance] at isolated
  exact isolated

theorem sound_seedOrigin (h : f.Sound) : (Flow.seedOrigin f).Sound := by
  let moved : GatedFilter PartialReal := { f with nav := f.nav.withHorizontalPosition .zero }
  have sound : moved.Sound := { h with }
  have isolated : (moved.isolate .posNorth .posEast (value 0.0)).Sound :=
    sound.isolate (by decide) (by norm_num)
  exact isolated.withOutputs _ _

theorem sound_act {es : List (Event PartialReal)}
    (clearance : Scalar.isFinite x.settings.groundClearance = true) (defined : x.histories.Defined)
    (h : f.Sound) (act : CoreAct x es f f') : f'.Sound := by
  cases act with
  | refreshDeclination => exact sound_refreshDeclination h
  | resetPosition source => exact sound_resets defined h (f.resetPosition_acts source x.histories)
  | resetVelocity source => exact sound_resets defined h (f.resetVelocity_acts source x.histories)
  | resetHeight source => exact sound_resets defined h (f.resetHeight_acts source x.histories)
  | resetHeading field => exact sound_resets defined h (f.resetHeading_acts field x.histories)
  | @turnTo v seen =>
      obtain ⟨-, q, attitude⟩ := defined.vision v seen
      have level : (f.nav.attitude.withYaw v.attitude.angles.yaw).Tilted 1 := by
        rw [attitude, Attitude.angles_ofReal]
        exact h.level.withYaw _
      exact { h with level }
  | stop => exact { h with }
  | seedVelocity w => exact sound_seedVelocity h clearance
  | seedOrigin w => exact sound_seedOrigin (sound_seedVelocity h clearance)

theorem sound_update (h : f.Sound) (a : Arbiter PartialReal)
    (clearance : Scalar.isFinite a.settings.groundClearance = true) (clock : Clock)
    {samples : Histories PartialReal} (defined : samples.Defined) :
    (a.update clock samples f).core.Sound := by
  have acts := Arbiter.settled_acts (a.context clock samples) a.standing f
  have settled := kept_of_acts acts (sound_act clearance defined) h
  rw [Arbiter.update_eq]
  exact settled.withOutputs _ _

end Cycle

end GatedFilter

/-! ## A cycle in which flow starts -/

namespace Flow

section Start

variable {α : Type} [Scalar α]

/-- An arbiter in the air, with tilt and yaw aligned and flow accepted from this quality on. -/
def readyArbiter (least : UInt8) : Arbiter α where
  settings := { Settings.default with
    allowed := { gps := false, flow := true }
    flowMinQuality := least }
  standing := readyStanding
  before := .initial

/-- What it sees in its next cycle. -/
def firstFlow (least : UInt8) : Context α :=
  (readyArbiter least).context ⟨1000000, 900000⟩ readyContext.histories

/-- The flow that it sees. -/
def firstSample : FlowSample α := ⟨980000, ⟨0.02, 0.01⟩, .zero, 0.1, 255⟩

section Cycle

variable (least : UInt8) (s : Standing α) (f : GatedFilter α)

theorem flow_firstFlow : Stage.flow.inCycle (firstFlow least) readyStanding f =
    control (firstFlow least) readyStanding f.refreshDeclination := by
  have standing : (Stage.flow.upTo (firstFlow least) readyStanding f).standing = readyStanding :=
    rfl
  have core : (Stage.flow.upTo (firstFlow least) readyStanding f).core = f.refreshDeclination := rfl
  rw [Stage.inCycle, standing, core]
  rfl

theorem started_control : .flowStarted ∈ (control (firstFlow least) readyStanding f).events := by
  have ready : Ready (firstFlow least : Context α) readyStanding :=
    ⟨rfl, rfl, recent_ready, show Time.age 1000000 990000 < 500000 by decide⟩
  exact (started_iff rfl).mpr ⟨ready, Or.inl rfl⟩

theorem started_firstFlow : .flowStarted ∈
    ((readyArbiter least).update ⟨1000000, 900000⟩ readyContext.histories f).events := by
  have started : .flowStarted ∈ (Stage.flow.inCycle (firstFlow least) readyStanding f).events := by
    rw [flow_firstFlow]
    exact started_control least f.refreshDeclination
  exact (mem_update_events .flow rfl).mpr ((mem_settled_iff rfl).mpr started)

/-- No other sensor has a sample to reset anything to. -/
theorem height_firstFlow : (Height.control (firstFlow least) s f).core = f := by
  rw [(height_left _ s f).2.1]
  unfold Height.watchTimeout Height.resetTo
  dsimp only
  split
  · split
    · rfl
    · next target _ => cases target <;> rfl
  · rfl

theorem settle_firstFlow : (Mag.settle (firstFlow least) s f).core = f := by
  unfold Mag.settle Mag.enter
  dsimp only
  split
  · rfl
  · split <;> rfl

theorem gps_firstFlow : (Gps.control (firstFlow least) s f).core = f := by
  unfold Gps.control
  split
  · next allowed => cases allowed
  · rfl

/-- After flow a core passes through satellite navigation, height and the magnetometer. -/
theorem settled_core (x : Context α) : ∃ s₁ s₂ s₃, (Arbiter.settled x s f).core =
    (Mag.settle x s₃ (Height.control x s₂ (Gps.control x s₁
      (Stage.flow.inCycle x s f).core).core).core).core :=
  ⟨(Stage.gps.upTo x s f).standing, (Stage.height.upTo x s f).standing,
    (Stage.mag.upTo x s f).standing, rfl⟩

/-- So the cycle leaves the velocity that the flow shows. -/
theorem core_firstFlow :
    ((readyArbiter least).update ⟨1000000, 900000⟩ readyContext.histories f).core =
      Estimator.applyJumps (seedVelocity (firstFlow least) f.refreshDeclination firstSample) := by
  obtain ⟨_, _, _, settled⟩ := settled_core readyStanding f (firstFlow least)
  rw [settle_firstFlow, height_firstFlow, gps_firstFlow, flow_firstFlow,
    core_of_started rfl (started_control least f.refreshDeclination)] at settled
  rw [Arbiter.update_eq]
  exact congrArg Estimator.applyJumps settled

theorem variance_firstFlow {k : Component} (hk : k ∈ [Component.velNorth, .velEast]) :
    let g := f.refreshDeclination
    let range := groundRange (firstFlow least) g
    let cycle := (readyArbiter least).update ⟨1000000, 900000⟩ readyContext.histories f
    cycle.core.covariance.variance k.state = range * range * g.flowVariance firstSample := by
  intro g range cycle
  have left : cycle.core = Estimator.applyJumps (seedVelocity (firstFlow least) g firstSample) :=
    core_firstFlow least f
  have kept (g : GatedFilter α) :
      (Estimator.applyJumps g).covariance.variance k.state = g.covariance.get k.state k.state := rfl
  have touches : Covariance.Touches 4 5 k.state k.state := by
    revert hk
    cases k <;> decide
  rw [left, kept, get_seedVelocity, if_pos touches, if_pos rfl]

end Cycle

end Start

theorem inRange_readyArbiter (least : UInt8) :
    (readyArbiter least : Arbiter PartialReal).settings.InRange :=
  { Settings.inRange_default least with }

theorem defined_readyContext : (readyContext : Context PartialReal).histories.Defined :=
  Histories.defined_of_silent rfl rfl

end Flow

/-! ## Runs -/

/-- A call that changes a gated filter. -/
inductive FilterCall (α : Type) where
  | predict (now : Time) (dt : α) (atRest : Bool)
  | fuse (health : Health) (input : FusionInput α)
  | resetPosition (source : HorizontalSource) (samples : Histories α)
  | resetVelocity (source : HorizontalSource) (samples : Histories α)
  | resetHeight (source : HeightSource) (samples : Histories α)
  | resetHeading (field : Vec3 α)
  /-- A cycle of an arbiter, which may be in any state. -/
  | update (arbiter : Arbiter α) (clock : Clock) (samples : Histories α)

/-- What a call brings along is defined, and a prediction does not go backwards in time. -/
def FilterCall.Defined : FilterCall PartialReal → Prop
  | .predict _ dt _ => ∃ d, dt = value d ∧ 0 ≤ d
  | .fuse _ input => input.histories.Defined
  | .resetPosition _ samples | .resetVelocity _ samples | .resetHeight _ samples => samples.Defined
  | .resetHeading _ => True
  | .update a _ samples => a.settings.Defined ∧ samples.Defined

namespace GatedFilter

/-- The filter after a call. -/
def call {α : Type} [Scalar α] (f : GatedFilter α) : FilterCall α → GatedFilter α
  | .predict now dt atRest => f.predict now dt atRest
  | .fuse health input => (f.fuseActive health input).core
  | .resetPosition source samples => (f.resetPosition source samples).2
  | .resetVelocity source samples => (f.resetVelocity source samples).2
  | .resetHeight source samples => (f.resetHeight source samples).2
  | .resetHeading field => (f.resetHeading field).2
  | .update a clock samples => (a.update clock samples f).core

/-- The filter after calls, in their order. -/
def after {α : Type} [Scalar α] (f : GatedFilter α) (calls : List (FilterCall α)) :
    GatedFilter α := calls.foldl call f

theorem sound_call {f : GatedFilter PartialReal} (h : f.Sound) (k : FilterCall PartialReal)
    (defined : k.Defined) : (f.call k).Sound := by
  cases k with
  | predict now dt atRest =>
      obtain ⟨d, rfl, forward⟩ := defined
      exact sound_predict h now forward atRest
  | fuse health input => exact sound_fuseActive h health input defined
  | resetPosition source samples =>
      exact sound_resets defined h (f.resetPosition_acts source samples)
  | resetVelocity source samples =>
      exact sound_resets defined h (f.resetVelocity_acts source samples)
  | resetHeight source samples => exact sound_resets defined h (f.resetHeight_acts source samples)
  | resetHeading field =>
      exact sound_resets (Histories.defined_of_silent rfl rfl) h (f.resetHeading_acts field .empty)
  | update a clock samples =>
      exact sound_update h a defined.1.groundClearance clock defined.2

theorem sound_after : ∀ {f : GatedFilter PartialReal} (calls : List (FilterCall PartialReal)),
    f.Sound → (∀ k ∈ calls, k.Defined) → (f.after calls).Sound
  | _, [], h, _ => h
  | _, k :: ks, h, defined =>
      sound_after ks (sound_call h k (defined k (List.mem_cons_self ..)))
        fun l hl => defined l (List.mem_cons_of_mem k hl)

/-- From settings that accept flow from some quality below 255 on: after any predictions forward in
time, fusions, resets and cycles, in any order and on any samples whose accuracies are defined,
every entry of the covariance is a real number, the matrix is symmetric and positive semidefinite,
and no variance is negative. -/
theorem covariance_semidefinite {settings : Settings PartialReal} (numbers : settings.Defined)
    (distant : settings.flowMinQuality ≠ 255) (calls : List (FilterCall PartialReal))
    (defined : ∀ k ∈ calls, k.Defined) :
    let p := ((ofSettings settings).after calls).covariance
    ∃ r : Covariance ℝ, (∀ i j, p.get i j = .value (r.get i j)) ∧
      (∀ i j, r.get i j = r.get j i) ∧ r.toMatrix.PosSemidef ∧ ∀ i, 0 ≤ r.variance i := by
  intro p
  obtain ⟨r, entries, semidefinite⟩ :=
    (sound_after calls (sound_ofSettings numbers distant) defined).covariance
  exact ⟨r, entries, fun i j => semidefinite.isHermitian.apply j i, semidefinite,
    fun _ => semidefinite.diag_nonneg⟩

/-- On a prediction, a fix that is fused, a reset to it, and a cycle in which flow starts. -/
theorem covariance_semidefinite_flow :
    let arbiter : Arbiter PartialReal := Flow.readyArbiter 1
    let seen : Histories PartialReal := { Histories.empty with
      gps := historyOf [⟨900000, .zero, 1.0, .zero, 1.0, 1.0, 1.0⟩] }
    let first : List (FilterCall PartialReal) :=
      [.predict 1000000 1.0 true,
        .fuse .initial ⟨{ Status.initial with gps := true }, seen, 900000, 1000000⟩,
        .resetVelocity .gps seen]
    let flow := Flow.readyContext.histories
    let calls := first ++ [.update arbiter ⟨1000000, 900000⟩ flow]
    let p := ((ofSettings arbiter.settings).after calls).covariance
    arbiter.settings.Defined ∧ arbiter.settings.flowMinQuality ≠ 255 ∧ (∀ k ∈ calls, k.Defined) ∧
      .flowStarted ∈ (arbiter.update ⟨1000000, 900000⟩ flow
        ((ofSettings arbiter.settings).after first)).events ∧
      ∃ r : Covariance ℝ, (∀ i j, p.get i j = .value (r.get i j)) ∧
        (∀ i j, r.get i j = r.get j i) ∧ r.toMatrix.PosSemidef ∧ ∀ i, 0 ≤ r.variance i := by
  intro arbiter seen first flow calls p
  have numbers : arbiter.settings.Defined := (Flow.inRange_readyArbiter 1).defined
  have distant : arbiter.settings.flowMinQuality ≠ 255 := by decide
  have fix : seen.Defined :=
    { gps := fun g hg => by
        obtain rfl := List.mem_singleton.mp hg
        exact ⟨rfl, rfl, rfl⟩
      vision := fun _ hv => absurd hv List.not_mem_nil }
  have defined : ∀ k ∈ calls, k.Defined := by
    intro k hk
    simp only [calls, first, List.cons_append, List.nil_append, List.mem_cons, List.not_mem_nil,
      or_false] at hk
    rcases hk with rfl | rfl | rfl | rfl
    · exact ⟨1.0, rfl, by norm_num⟩
    · exact fix
    · exact fix
    · exact ⟨numbers, Flow.defined_readyContext⟩
  exact ⟨numbers, distant, defined, Flow.started_firstFlow 1 _,
    covariance_semidefinite numbers distant calls defined⟩

/-- With no quality below the least one the settings are still in range, and a start of flow leaves
no variance of velocity: it is undefined in exact arithmetic, and not finite in floats. -/
theorem covariance_fullQuality :
    let flow {α : Type} [Scalar α] : Histories α := Flow.readyContext.histories
    let arbiter : Arbiter PartialReal := Flow.readyArbiter 255
    let call : FilterCall PartialReal := .update arbiter ⟨1000000, 900000⟩ flow
    let p := ((ofSettings arbiter.settings).after [call]).covariance
    let float : Arbiter Float := Flow.readyArbiter 255
    let q := ((ofSettings float.settings).after [.update float ⟨1000000, 900000⟩ flow]).covariance
    (arbiter.settings.check = .ok () ∧ call.Defined ∧
      ∀ k ∈ [Component.velNorth, .velEast], p.variance k.state = .undefined) ∧
    float.settings.check = .ok () ∧
      ∀ k ∈ [Component.velNorth, .velEast], Scalar.isFinite (q.variance k.state) = false := by
  intro flow arbiter call p float q
  have inRange := Flow.inRange_readyArbiter 255
  have inRange' : (Flow.readyArbiter 255 : Arbiter Float).settings.check = .ok () := rfl
  have written : ∀ k ∈ [Component.velNorth, .velEast], p.variance k.state = .undefined := by
    intro k hk
    obtain ⟨_, refreshed⟩ := (ofSettings arbiter.settings).refreshDeclination_frame
    have none : (ofSettings arbiter.settings).refreshDeclination.flowMinQuality = 255 := by
      rw [refreshed]
      rfl
    refine (Flow.variance_firstFlow 255 _ hk).trans ?_
    rw [flowVariance_undefined none, mul_undefined]
  exact ⟨⟨Settings.check_eq_ok_iff.mpr inRange, ⟨inRange.defined, Flow.defined_readyContext⟩,
    written⟩, inRange', by decide +kernel⟩

end GatedFilter

end NavArbiter

/-
# The divisors of a start of flow

A start of flow without satellite navigation divides by two numbers:

    divisor                 of                    excluded
    cosine of the tilt      the height, always    by nothing
    interval of the flow    the body velocity     by the least interval of a telling sample

That tilt is aligned says that its error is small, and nothing of the tilt itself.  So the first
divisor is zero for a filter that lies on its side, whatever else holds, and then the distance to
the ground is not defined and with it the variances that are made of it (`flow_start_divisors`).

The tilt in question is that of the filter which the start finds: an attempt at yaw comes first and
may turn the filter, but only about the vertical (`Attitude.tiltCosine_withYaw`).  In exact
arithmetic (`PartialReal`) such a turn is always defined, because no angle is divided for but by the
cosine of a pitch that is off the poles.
-/
import NavArbiter.Proofs.FlowNoise
import NavArbiter.Proofs.ResetDeltas

namespace NavArbiter

/-! ## A turn about the vertical -/

namespace Attitude

theorem tiltCosine_eq (q : Attitude ℝ) :
    q.tiltCosine = q.w ^ 2 - q.i ^ 2 - q.j ^ 2 + q.k ^ 2 := by
  show q.w * q.w - q.i * q.i - q.j * q.j + q.k * q.k = _
  ring

/-- The tilt of an attitude made of angles does not depend on yaw. -/
theorem tiltCosine_ofAngles (roll pitch yaw : ℝ) :
    (ofAngles roll pitch yaw).tiltCosine = Real.cos roll * Real.cos pitch := by
  have half (a : ℝ) : Real.cos a = Real.cos (a * 0.5) ^ 2 - Real.sin (a * 0.5) ^ 2 := by
    rw [← Real.cos_two_mul']
    congr 1
    ring
  have circle (a : ℝ) : Real.sin a ^ 2 = 1 - Real.cos a ^ 2 := Real.sin_sq a
  have turned : ∀ sr cr sp cp sy cy : ℝ, sy ^ 2 = 1 - cy ^ 2 →
      (cr * cp * cy + sr * sp * sy) ^ 2 - (sr * cp * cy - cr * sp * sy) ^ 2 -
        (cr * sp * cy + sr * cp * sy) ^ 2 + (cr * cp * sy - sr * sp * cy) ^ 2 =
      (cr ^ 2 - sr ^ 2) * (cp ^ 2 - sp ^ 2) := by
    intro sr cr sp cp sy cy h
    linear_combination (cr ^ 2 - sr ^ 2) * (cp ^ 2 - sp ^ 2) * h
  rw [half roll, half pitch, tiltCosine_eq]
  exact turned _ _ _ _ _ _ (circle _)

/-- The bottom row of a rotation has length one. -/
theorem bottom_row {q : Attitude ℝ} (unit : q.IsUnit) :
    q.rotation.r20 ^ 2 + q.rotation.r21 ^ 2 + q.tiltCosine ^ 2 = 1 := by
  have h := isUnit_iff.mp unit
  have row : q.rotation.r20 ^ 2 + q.rotation.r21 ^ 2 + q.tiltCosine ^ 2 =
      (q.w ^ 2 + q.i ^ 2 + q.j ^ 2 + q.k ^ 2) ^ 2 := by
    rw [tiltCosine_eq]
    show (q.i * q.k * (2.0 : ℝ) - q.w * q.j * (2.0 : ℝ)) ^ 2 +
      (q.w * q.i * (2.0 : ℝ) + q.j * q.k * (2.0 : ℝ)) ^ 2 + _ = _
    norm_num
    ring
  rw [row, h, one_pow]

end Attitude

theorem Scalar.abs_real (a : ℝ) : Scalar.abs a = |a| := by
  unfold Scalar.abs
  rw [Scalar.zero_real]
  split
  · next h => exact (abs_of_neg h).symm
  · next h => exact (abs_of_nonneg (not_lt.mp h)).symm

theorem cos_arcsin_pos {a : ℝ} (h : |a| < 1) : 0 < Real.cos (Real.arcsin a) := by
  rw [Real.cos_arcsin]
  exact Real.sqrt_pos.mpr (sub_pos.mpr ((sq_lt_one_iff_abs_lt_one a).mpr h))

/-- Roll and pitch, as they are read off a rotation, show its tilt again. -/
theorem Rotation.cos_angles {r : Rotation ℝ} (row : r.r20 ^ 2 + r.r21 ^ 2 + r.r22 ^ 2 = 1) :
    Real.cos r.angles.roll * Real.cos r.angles.pitch = r.r22 := by
  have one : (1.0 : ℝ) = 1 := by norm_num
  have two : (2.0 : ℝ) = 2 := by norm_num
  have pole (upright : ¬ |r.r20| < 1) : r.r22 = 0 := by
    have steep : 1 ≤ r.r20 ^ 2 := (one_le_sq_iff_one_le_abs _).mpr (not_lt.mp upright)
    nlinarith [sq_nonneg r.r21, sq_nonneg r.r22]
  unfold angles
  rw [Scalar.abs_real]
  split
  · next tilted =>
    have tilted : |r.r20| < 1 := one ▸ tilted
    set c := Real.cos (-Real.arcsin r.r20) with hc
    have positive : 0 < c := by
      rw [hc, Real.cos_neg]
      exact cos_arcsin_pos tilted
    have square : c ^ 2 = r.r22 ^ 2 + r.r21 ^ 2 := by
      have sine : Real.sin (Real.arcsin r.r20) = r.r20 :=
        Real.sin_arcsin (neg_le_of_abs_le tilted.le) (le_of_abs_le tilted.le)
      rw [hc, Real.cos_neg, Real.cos_sq', sine]
      linarith
    have length : ‖(⟨r.r22 / c, r.r21 / c⟩ : ℂ)‖ = 1 := by
      rw [← sq_eq_sq₀ (norm_nonneg _) zero_le_one, Complex.sq_norm, Complex.normSq_mk]
      field_simp
      linarith
    have other : (⟨r.r22 / c, r.r21 / c⟩ : ℂ) ≠ 0 := by
      rw [← norm_pos_iff, length]
      exact one_pos
    show Real.cos (Complex.arg ⟨r.r22 / c, r.r21 / c⟩) * c = r.r22
    rw [Complex.cos_arg other, length, div_one]
    exact div_mul_cancel₀ _ positive.ne'
  · next upright =>
    have level := pole (one ▸ upright)
    split
    · show _ * Real.cos (Real.pi / (2.0 : ℝ)) = _
      rw [two, Real.cos_pi_div_two, mul_zero, level]
    · show _ * Real.cos (-(Real.pi / (2.0 : ℝ))) = _
      rw [two, Real.cos_neg (Real.pi / 2), Real.cos_pi_div_two, mul_zero, level]

/-- Another yaw leaves the tilt. -/
theorem Attitude.tiltCosine_withYaw {q : Attitude ℝ} (unit : q.IsUnit) (yaw : ℝ) :
    (q.withYaw yaw).tiltCosine = q.tiltCosine := by
  rw [withYaw, tiltCosine_ofAngles]
  exact Rotation.cos_angles (bottom_row unit)

/-! ## Attitudes of real numbers -/

open PartialReal

/-- The rotation with these numbers. -/
def Rotation.ofReal (r : Rotation ℝ) : Rotation PartialReal where
  r00 := value r.r00
  r01 := value r.r01
  r02 := value r.r02
  r10 := value r.r10
  r11 := value r.r11
  r12 := value r.r12
  r20 := value r.r20
  r21 := value r.r21
  r22 := value r.r22

/-- The angles with these numbers. -/
def Angles.ofReal (a : Angles ℝ) : Angles PartialReal :=
  ⟨value a.roll, value a.pitch, value a.yaw⟩

/-- The attitude with these numbers. -/
def Attitude.ofReal (q : Attitude ℝ) : Attitude PartialReal :=
  ⟨value q.i, value q.j, value q.k, value q.w⟩

theorem Attitude.rotation_ofReal (q : Attitude ℝ) :
    (ofReal q).rotation = .ofReal q.rotation := rfl

theorem PartialReal.abs_value (a : ℝ) : Scalar.abs (value a) = value (Scalar.abs a) := by
  unfold Scalar.abs
  rw [apply_ite value]
  rfl

/-- The angles of a rotation are always defined. -/
theorem Rotation.angles_ofReal (r : Rotation ℝ) : (ofReal r).angles = .ofReal r.angles := by
  by_cases tilted : Scalar.abs r.r20 < (1.0 : ℝ)
  · have tilted' : Scalar.abs (ofReal r).r20 < (1.0 : PartialReal) := by
      show Scalar.abs (value r.r20) < value (1.0 : ℝ)
      rw [PartialReal.abs_value]
      exact tilted
    have small : |r.r20| < 1 := by
      rw [← Scalar.abs_real, show (1 : ℝ) = 1.0 by norm_num]
      exact tilted
    have sine : Scalar.asin (ofReal r).r20 = value (Real.arcsin r.r20) := if_pos small.le
    have divisor : Real.cos (-Real.arcsin r.r20) ≠ 0 := by
      rw [Real.cos_neg]
      exact (cos_arcsin_pos small).ne'
    have quotient (a : ℝ) : value a / Scalar.cos (-value (Real.arcsin r.r20)) =
        value (a / Real.cos (-Real.arcsin r.r20)) := value_div divisor
    unfold angles
    rw [if_pos tilted', if_pos tilted, sine]
    show (⟨Scalar.atan2 (value r.r21 / _) (value r.r22 / _), _,
      Scalar.atan2 (value r.r10 / _) (value r.r00 / _)⟩ : Angles PartialReal) = _
    rw [quotient, quotient, quotient, quotient]
    rfl
  · have upright : ¬ Scalar.abs (ofReal r).r20 < (1.0 : PartialReal) := by
      show ¬ Scalar.abs (value r.r20) < value (1.0 : ℝ)
      rw [PartialReal.abs_value]
      exact tilted
    have half : (Scalar.pi / 2.0 : PartialReal) = value (Scalar.pi / 2.0) :=
      value_div (show (2.0 : ℝ) ≠ 0 by norm_num)
    unfold angles
    rw [if_neg upright, if_neg tilted, half]
    by_cases down : r.r20 ≤ -(1.0 : ℝ)
    · have down' : (ofReal r).r20 ≤ -(1.0 : PartialReal) := down
      rw [if_pos down', if_pos down]
      rfl
    · have up : ¬ (ofReal r).r20 ≤ -(1.0 : PartialReal) := down
      rw [if_neg up, if_neg down]
      rfl

theorem Attitude.angles_ofReal (q : Attitude ℝ) : (ofReal q).angles = .ofReal q.angles := by
  rw [angles, rotation_ofReal, Rotation.angles_ofReal]
  rfl

theorem Attitude.withYaw_ofReal (q : Attitude ℝ) (yaw : ℝ) :
    (ofReal q).withYaw (value yaw) = .ofReal (q.withYaw yaw) := by
  rw [withYaw, angles_ofReal]
  rfl

/-- A rotation, of real numbers, with this tilt. -/
def Attitude.Tilted (q : Attitude PartialReal) (tilt : ℝ) : Prop :=
  ∃ r : Attitude ℝ, q = .ofReal r ∧ r.IsUnit ∧ r.tiltCosine = tilt

/-- A turn to another yaw keeps the tilt. -/
theorem Attitude.Tilted.withYaw {q : Attitude PartialReal} {tilt : ℝ} (h : q.Tilted tilt)
    (yaw : ℝ) : (q.withYaw (value yaw)).Tilted tilt := by
  obtain ⟨r, rfl, unit, rfl⟩ := h
  exact ⟨r.withYaw yaw, withYaw_ofReal r yaw, r.isUnit_withYaw yaw, tiltCosine_withYaw unit yaw⟩

/-! ## Defined numbers -/

namespace PartialReal

theorem isFinite_iff {x : PartialReal} : Scalar.isFinite x = true ↔ ∃ r, x = value r := by
  cases x with
  | undefined => exact iff_of_false Bool.false_ne_true nofun
  | value r => exact iff_of_true rfl ⟨r, rfl⟩

theorem isFinite_mul (x y : PartialReal) :
    Scalar.isFinite (x * y) = (Scalar.isFinite x && Scalar.isFinite y) := by
  cases x <;> cases y <;> rfl

/-- Nothing undefined is larger than a number. -/
theorem larger_defined (x : PartialReal) (b : ℝ) : ∃ r, Scalar.larger x (value b) = value r := by
  have own : value b ≤ value b := le_refl b
  unfold Scalar.larger
  by_cases h : value b ≤ x
  · cases x with
    | undefined => exact absurd h id
    | value a => exact ⟨a, if_pos h⟩
  · exact ⟨b, by rw [if_neg h, if_pos own]⟩

theorem value_lt_iff {a : ℝ} {x : PartialReal} : value a < x ↔ ∃ r, x = value r ∧ a < r := by
  cases x with
  | undefined => simp
  | value r => simp

theorem isFinite_quotient {a b : ℝ} : Scalar.isFinite (value a / value b) = true ↔ b ≠ 0 := by
  by_cases h : b = 0
  · rw [h, div_value_zero]
    exact iff_of_false Bool.false_ne_true fun h => h rfl
  · rw [value_div h]
    exact iff_of_true rfl h

theorem vec3_isFinite {v : Vec3 PartialReal} (h : v.isFinite = true) :
    ∃ x y z, v = ⟨value x, value y, value z⟩ := by
  simp only [Vec3.isFinite, Bool.and_eq_true, isFinite_iff] at h
  obtain ⟨⟨⟨x, hx⟩, y, hy⟩, z, hz⟩ := h
  exact ⟨x, y, z, by rw [← hx, ← hy, ← hz]⟩

end PartialReal

/-! ## Attempts at yaw -/

namespace GatedFilter

variable {f : GatedFilter PartialReal} {q : Attitude ℝ}

theorem headingOf_defined (attitude : f.nav.attitude = .ofReal q)
    (declination : Scalar.isFinite f.declination = true) {field : Vec3 PartialReal}
    (finite : field.isFinite = true) : ∃ yaw, f.headingOf field = value yaw := by
  obtain ⟨δ, hδ⟩ := isFinite_iff.mp declination
  obtain ⟨x, y, z, rfl⟩ := vec3_isFinite finite
  rw [headingOf, attitude, Attitude.angles_ofReal, hδ]
  exact ⟨_, rfl⟩

/-- Resets turn the filter about the vertical, if at all. -/
theorem tilted_resetAct {samples : Histories PartialReal} {g : GatedFilter PartialReal} {tilt : ℝ}
    (h : f.nav.attitude.Tilted tilt) (declination : Scalar.isFinite f.declination = true)
    (act : ResetAct samples f g) : g.nav.attitude.Tilted tilt := by
  cases act with
  | turn finite =>
      obtain ⟨q, attitude, -⟩ := id h
      obtain ⟨yaw, heading⟩ := headingOf_defined attitude declination finite
      show (f.nav.attitude.withYaw (f.headingOf _)).Tilted tilt
      rw [heading]
      exact h.withYaw yaw
  | moveTo | setSpeed | moveDownTo | setDescent => exact h

theorem tilted_resetHeading {tilt : ℝ} (h : f.nav.attitude.Tilted tilt)
    (declination : Scalar.isFinite f.declination = true) (field : Vec3 PartialReal) :
    (f.resetHeading field).2.nav.attitude.Tilted tilt := by
  let Kept (g : GatedFilter PartialReal) : Prop :=
    g.nav.attitude.Tilted tilt ∧ Scalar.isFinite g.declination = true
  have kept : Kept (f.resetHeading field).2 := by
    refine kept_of_acts (f.resetHeading_acts field .empty) (fun h act => ?_) ⟨h, declination⟩
    exact ⟨tilted_resetAct h.1 h.2 act, by cases act <;> exact h.2⟩
  exact kept.1

theorem flowVariance_resetHeading {α : Type} [Scalar α] (f : GatedFilter α) (field : Vec3 α) :
    (f.resetHeading field).2.flowVariance = f.flowVariance := by
  unfold GatedFilter.resetHeading
  split <;> rfl

variable {x : Context PartialReal} {s : Standing PartialReal}
  {a : Alignment PartialReal (GatedFilter PartialReal)}

/-- An attempt at yaw keeps the tilt and the noise of flow. -/
theorem tilted_of_attempt {tilt : ℝ} (h : YawAttempt x s f a)
    (tilted : f.nav.attitude.Tilted tilt) (declination : Scalar.isFinite f.declination = true) :
    a.core.nav.attitude.Tilted tilt ∧ a.core.flowVariance = f.flowVariance := by
  cases h with
  | aligned | unseen => exact ⟨tilted, rfl⟩
  | @asked m granted c' _ _ answer =>
      obtain rfl : (f.resetHeading m.field).2 = c' := congrArg Prod.snd answer
      exact ⟨tilted_resetHeading tilted declination m.field, f.flowVariance_resetHeading m.field⟩

end GatedFilter

/-! ## What a start computes -/

namespace Flow

variable {x : Context PartialReal} {s : Standing PartialReal} {f g : GatedFilter PartialReal}
  {w : FlowSample PartialReal} {tilt : ℝ}

/-- What a start of flow reads are real numbers, and the filter has the noises of the settings. -/
structure Exact (x : Context PartialReal) (f : GatedFilter PartialReal) : Prop where
  down : Scalar.isFinite f.nav.position.z = true
  terrain : Scalar.isFinite f.terrain = true
  declination : Scalar.isFinite f.declination = true
  samples : ∀ w ∈ x.histories.flow.samples, Scalar.isFinite w.flow.x = true ∧
    Scalar.isFinite w.flow.y = true ∧ Scalar.isFinite w.interval = true
  noise : f.flowNoise = x.settings.flowNoise ∧ f.flowNoiseWorst = x.settings.flowNoiseWorst ∧
    f.flowMinQuality = x.settings.flowMinQuality

/-- The distance to the ground is the quotient of a real number by the tilt. -/
theorem groundRange_eq (clearance : Scalar.isFinite x.settings.groundClearance = true)
    (tilted : g.nav.attitude.Tilted tilt) : ∃ height, groundRange x g = value height / value tilt := by
  obtain ⟨q, attitude, -, rfl⟩ := tilted
  obtain ⟨c, hc⟩ := isFinite_iff.mp clearance
  obtain ⟨height, above⟩ := larger_defined (g.terrain - g.nav.position.z) c
  refine ⟨height, ?_⟩
  show Scalar.larger (g.terrain - g.nav.position.z) x.settings.groundClearance /
    g.nav.attitude.tiltCosine = _
  rw [hc, above, attitude]
  rfl

theorem isFinite_flowVariance (inRange : x.settings.InRange) (exact : Exact x f) :
    Scalar.isFinite (f.flowVariance w) = true ↔ x.settings.flowMinQuality ≠ 255 := by
  obtain ⟨best, hb, -⟩ := pos_iff.mp inRange.flowNoise.2
  obtain ⟨worst, hw, -⟩ := pos_iff.mp inRange.flowNoiseWorst.2
  obtain ⟨noise, noiseWorst, least⟩ := exact.noise
  rw [← least]
  by_cases distant : f.flowMinQuality = 255
  · rw [GatedFilter.flowVariance_undefined distant]
    exact iff_of_false Bool.false_ne_true fun h => h distant
  · rw [GatedFilter.flowVariance_value (noise.trans hb) (noiseWorst.trans hw) distant]
    exact iff_of_true rfl distant

/-- The interval of a telling sample is not zero. -/
theorem Telling.interval_pos {range : PartialReal} (telling : Telling x range w) :
    ∃ d, w.interval = value d ∧ 0 < d := by
  obtain ⟨d, hd, long⟩ := value_lt_iff.mp telling.2
  exact ⟨d, hd, lt_trans (show (0 : ℝ) < 0.05 by norm_num) long⟩

/-- A velocity that is written is defined if the distance is. -/
theorem Seeded.velocity_defined {g' : GatedFilter PartialReal} (seeded : Seeded x w g g')
    (range : Scalar.isFinite (groundRange x g) = true) (tilted : g.nav.attitude.Tilted tilt)
    (flow : Scalar.isFinite w.flow.x = true ∧ Scalar.isFinite w.flow.y = true) :
    Scalar.isFinite g'.nav.velocity.x = true ∧ Scalar.isFinite g'.nav.velocity.y = true := by
  obtain ⟨q, attitude, -⟩ := tilted
  obtain ⟨ρ, hρ⟩ := isFinite_iff.mp range
  obtain ⟨a, ha⟩ := isFinite_iff.mp flow.1
  obtain ⟨b, hb⟩ := isFinite_iff.mp flow.2
  suffices h : ∃ v : Vec2 ℝ, g'.nav.velocity.horizontal = ⟨value v.x, value v.y⟩ by
    obtain ⟨v, hv⟩ := h
    exact ⟨isFinite_iff.mpr ⟨v.x, congrArg Vec2.x hv⟩, isFinite_iff.mpr ⟨v.y, congrArg Vec2.y hv⟩⟩
  by_cases telling : Telling x (groundRange x g) w
  · obtain ⟨d, hd, positive⟩ := telling.interval_pos
    have quotient (r : ℝ) : value r / value d = value (r / d) := value_div positive.ne'
    rw [seeded.shown telling, hρ, ha, hb, hd, attitude, Attitude.rotation_ofReal]
    show ∃ v : Vec2 ℝ, ((Rotation.ofReal q.rotation).apply
      ⟨value (-ρ * b) / value d, value (ρ * a) / value d, 0.0⟩).horizontal = _
    rw [quotient, quotient]
    exact ⟨⟨_, _⟩, rfl⟩
  · rw [seeded.still telling]
    exact ⟨⟨_, _⟩, rfl⟩

theorem allowed_of_started (started : .flowStarted ∈ (control x s f).events) :
    x.settings.allowed.flow = true := by
  unfold control at started
  split at started
  · next allowed => exact allowed
  · split at started
    · exact nomatch started
    · cases started

end Flow

/-! ## The law -/

/-- Every start of flow without satellite navigation, under settings in range, of a filter whose
attitude is a rotation and whose numbers are real.  The distance to the ground is divided for by the
tilt of that attitude, which an attempt at yaw leaves as it was, and is defined exactly if the tilt
is not zero.  The body velocity is divided for by an interval above zero.  With a tilt that is not
zero the velocity is defined; and the variances of velocity are, exactly if besides the least
quality of flow is below 255. -/
theorem flow_start_divisors {x : Context PartialReal} {s : Standing PartialReal}
    {f : GatedFilter PartialReal} {q : Attitude ℝ} (inRange : x.settings.check = .ok ())
    (exact : Flow.Exact x f) (attitude : f.nav.attitude = .ofReal q) (unit : q.IsUnit)
    (started : .flowStarted ∈ (Flow.control x s f).events) (alone : x.before.gps = false) :
    let g := (Alignment.ofMag x s f).core
    let o := Flow.control x s f
    ∃ w, x.histories.flow.newest? = some w ∧
      g.nav.attitude.tiltCosine = .value q.tiltCosine ∧
      (Scalar.isFinite (Flow.groundRange x g) = true ↔ q.tiltCosine ≠ 0) ∧
      (Flow.Telling x (Flow.groundRange x g) w → ∃ d, w.interval = .value d ∧ 0 < d) ∧
      (q.tiltCosine ≠ 0 → Scalar.isFinite o.core.nav.velocity.x = true ∧
        Scalar.isFinite o.core.nav.velocity.y = true) ∧
      ∀ k ∈ [Component.velNorth, Component.velEast],
        (Scalar.isFinite (o.core.covariance.variance k.state) = true ↔
          q.tiltCosine ≠ 0 ∧ x.settings.flowMinQuality ≠ 255) := by
  intro g o
  have inRange := Settings.check_eq_ok_iff.mp inRange
  have allowed := Flow.allowed_of_started started
  have attempt := ofMag_attempt x s f
  obtain ⟨tilted, sameNoise⟩ :=
    GatedFilter.tilted_of_attempt attempt ⟨q, attitude, unit, rfl⟩ exact.declination
  obtain ⟨w, newest, -⟩ := ((Flow.started_iff allowed).mp started).1.recent
  have seeded : Flow.Seeded x w g o.core := by
    show Flow.Seeded x w g (Flow.control x s f).core
    rw [Flow.core_of_started allowed started]
    exact (Flow.seed_seeded alone newest).1
  have range : Scalar.isFinite (Flow.groundRange x g) = true ↔ q.tiltCosine ≠ 0 := by
    obtain ⟨height, quotient⟩ := Flow.groundRange_eq inRange.groundClearance.1 tilted
    rw [quotient]
    exact PartialReal.isFinite_quotient
  obtain ⟨flowX, flowY, -⟩ := exact.samples w (List.mem_of_getLast? newest)
  refine ⟨w, newest, ?_, range, Flow.Telling.interval_pos, fun upright => ?_, fun k hk => ?_⟩
  · obtain ⟨q', turned, -, same⟩ := tilted
    show g.nav.attitude.tiltCosine = _
    rw [turned, ← same]
    rfl
  · exact seeded.velocity_defined (range.mpr upright) tilted ⟨flowX, flowY⟩
  · have touches : Covariance.Touches 4 5 k.state k.state := by
      revert hk
      cases k <;> decide
    have variance := seeded.velocityBlock k.state k.state touches
    rw [if_pos rfl, sameNoise] at variance
    rw [Covariance.variance, variance, PartialReal.isFinite_mul, PartialReal.isFinite_mul,
      Bool.and_self, Bool.and_eq_true, range, Flow.isFinite_flowVariance inRange exact]

/-! ## Attitudes with and without a tilt -/

namespace Flow

section Ready

variable {α : Type} [Scalar α]

/-- In the air, with tilt and yaw aligned, flow allowed and one sample of it. -/
def readyContext : Context α :=
  let unseen : Histories α := .empty Histories.defaultCapacity Histories.defaultCapacity_pos
  ⟨⟨1000000, 900000⟩, { Settings.default with allowed := { flow := true } },
    { unseen with flow := historyOf [⟨980000, ⟨0.02, 0.01⟩, .zero, 0.1, 255⟩] },
    { Status.initial with tiltAligned := true, yawAligned := true, inAir := true }⟩

/-- The same standing, with a terrain height just taken. -/
def readyStanding : Standing α :=
  { Standing.initial with
    status := { Status.initial with tiltAligned := true, yawAligned := true, inAir := true }
    health := { lastTerrain := some 990000 } }

/-- A filter with this attitude. -/
def facing (q : Attitude α) : GatedFilter α :=
  { GatedFilter.levelled with nav := { NavState.initial with attitude := q } }

theorem recent_ready : (readyContext : Context α).histories.flow.Recent 1000000 500000 :=
  ⟨_, rfl, show Time.age 1000000 980000 < 500000 by decide⟩

/-- Flow starts there, whatever the filter. -/
theorem started_ready (f : GatedFilter α) :
    .flowStarted ∈ (control readyContext readyStanding f).events := by
  have ready : Ready (readyContext : Context α) readyStanding :=
    ⟨rfl, rfl, recent_ready, show Time.age 1000000 990000 < 500000 by decide⟩
  exact (started_iff rfl).mpr ⟨ready, Or.inl rfl⟩

end Ready

theorem inRange_ready : (readyContext : Context PartialReal).settings.check = .ok () :=
  Settings.check_eq_ok_iff.mpr { Settings.inRange_default 1 with }

end Flow

/-- Rolled by about 74 degrees the tilt is 0.28, and all that a start writes is defined. -/
theorem flow_start_banked :
    let q : Attitude ℝ := ⟨0.6, 0, 0, 0.8⟩
    let x : Context PartialReal := Flow.readyContext
    let s : Standing PartialReal := Flow.readyStanding
    let f := Flow.facing (.ofReal q)
    x.settings.check = .ok () ∧ Flow.Exact x f ∧ f.nav.attitude = .ofReal q ∧ q.IsUnit ∧
      .flowStarted ∈ (Flow.control x s f).events ∧ x.before.gps = false ∧
      Scalar.isFinite (Flow.control x s f).core.nav.velocity.x = true ∧
      Scalar.isFinite ((Flow.control x s f).core.covariance.variance Component.velNorth.state) =
        true := by
  intro q x s f
  have exact : Flow.Exact x f :=
    { down := rfl, terrain := rfl, declination := rfl, noise := ⟨rfl, rfl, rfl⟩
      samples := fun w hw => by
        obtain rfl := List.mem_singleton.mp hw
        exact ⟨rfl, rfl, rfl⟩ }
  have unit : q.IsUnit := by
    rw [Attitude.isUnit_iff]
    norm_num [q]
  have upright : q.tiltCosine ≠ 0 := by
    rw [Attitude.tiltCosine_eq]
    norm_num [q]
  have distant : x.settings.flowMinQuality ≠ 255 := by decide
  have attitude : f.nav.attitude = .ofReal q := rfl
  have inRange : x.settings.check = .ok () := Flow.inRange_ready
  have started : .flowStarted ∈ (Flow.control x s f).events := Flow.started_ready f
  obtain ⟨-, -, -, -, -, velocity, variances⟩ :=
    flow_start_divisors inRange exact attitude unit started rfl
  have north := variances .velNorth (List.mem_cons_self ..)
  exact ⟨inRange, exact, attitude, unit, started, rfl, (velocity upright).1,
    north.mpr ⟨upright, distant⟩⟩

/-- Lying on its side the filter is as much a rotation, its tilt is zero and flow starts.  In exact
arithmetic the distance to the ground is undefined, and in floats neither the velocity nor its
variances are finite. -/
theorem flow_start_sideways :
    let q : Attitude ℝ := ⟨0.5, 0.5, 0.5, 0.5⟩
    let real := Flow.facing (.ofReal q)
    let x : Context Float := Flow.readyContext
    let float : GatedFilter Float := Flow.facing ⟨0.5, 0.5, 0.5, 0.5⟩
    (q.IsUnit ∧ (Flow.readyContext : Context PartialReal).settings.check = .ok () ∧
      .flowStarted ∈ (Flow.control Flow.readyContext Flow.readyStanding real).events ∧
      Flow.groundRange Flow.readyContext real = .undefined) ∧
    x.settings.check = .ok () ∧ .flowStarted ∈ (Flow.control x Flow.readyStanding float).events ∧
      let core := (Flow.control x Flow.readyStanding float).core
      Scalar.isFinite core.nav.velocity.x = false ∧
        Scalar.isFinite (core.covariance.variance Component.velNorth.state) = false ∧
        Scalar.isFinite (core.covariance.variance Component.velEast.state) = false := by
  intro q real x float
  have unit : q.IsUnit := by
    rw [Attitude.isUnit_iff]
    norm_num [q]
  have flat : q.tiltCosine = 0 := by
    rw [Attitude.tiltCosine_eq]
    norm_num [q]
  have range : Flow.groundRange Flow.readyContext real = .undefined := by
    show _ / PartialReal.value q.tiltCosine = _
    rw [flat, PartialReal.div_value_zero]
  have inRange : (Flow.readyContext : Context Float).settings.check = .ok () := rfl
  exact ⟨⟨unit, Flow.inRange_ready, Flow.started_ready real, range⟩,
    inRange, Flow.started_ready float, by decide +kernel, by decide +kernel, by decide +kernel⟩

end NavArbiter

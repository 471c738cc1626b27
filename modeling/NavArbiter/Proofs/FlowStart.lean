/-
# What a start of flow leaves of the filter

A start first sees to yaw, which may turn the filter (`GatedFilter.Turned`).  What it writes after
that depends on who else holds the position:

    part                    beside satellite    in the air           on the ground
    vertical components     kept                kept                 kept
    horizontal velocity     kept                what the flow shows  what the flow shows
    its rows and columns    kept                variances alone      variances alone
    horizontal position     kept                kept                 the origin
    its rows and columns    kept                kept                 zero
    jumps that wait         kept                kept                 none
    outputs                 kept                kept                 the present state

What the flow shows is seen with the attitude that the attempt at yaw left, and is zero too near to
the ground or over too short an interval.  The variances of velocity are written before the block of
position is cleared, and both survive that, since the two blocks have no entry in common on the
diagonal.
-/
import NavArbiter.Proofs.RecentResets

namespace NavArbiter

/-! ## Blocks of the covariance -/

namespace Covariance

variable {α : Type}

/-- The entry lies in a row or a column of the block. -/
def Touches (first last : Nat) (i j : Fin stateDim) : Prop :=
  (first ≤ i.val ∧ i.val ≤ last) ∨ (first ≤ j.val ∧ j.val ≤ last)

instance (first last : Nat) (i j : Fin stateDim) : Decidable (Touches first last i j) :=
  inferInstanceAs (Decidable (_ ∨ _))

theorem get_clearBlock [Scalar α] (p : Covariance α) (first last : Nat) (i j : Fin stateDim) :
    (p.clearBlock first last).get i j = if Touches first last i j then 0.0 else p.get i j := by
  rw [clearBlock, get_ofEntries]
  rfl

/-- A block of one or two states that was cleared and given one variance. -/
theorem get_isolated [Scalar α] (p : Covariance α) (first last : Fin stateDim)
    (near : first.val ≤ last.val ∧ last.val ≤ first.val + 1) (a : α) (i j : Fin stateDim) :
    (((p.clearBlock first.val last.val).setVariance first a).setVariance last a).get i j =
      if Touches first.val last.val i j then if i = j then a else 0.0 else p.get i j := by
  rw [setVariance, get_set, setVariance, get_set, get_clearBlock]
  by_cases diagonal : i = j
  · subst diagonal
    have touches : Touches first.val last.val i i ↔ last = i ∨ first = i := by
      rw [Touches, or_self_iff, Fin.ext_iff, Fin.ext_iff]
      omega
    simp only [touches, and_self, if_true]
    by_cases hl : last = i <;> by_cases hf : first = i <;>
      simp only [hl, hf, if_true, if_false, or_self, or_true, true_or, ite_self]
  · have off : ∀ k : Fin stateDim, ¬ (k = i ∧ k = j) := by
      rintro k ⟨rfl, rfl⟩
      exact diagonal rfl
    simp [off, diagonal]

end Covariance

variable {α : Type} [Scalar α]

/-! ## Attempts at yaw -/

namespace GatedFilter

/-- An attempt at yaw lies between the two filters: all but the attitude, the earth field, their
variances and the log of jumps is as it was. -/
structure Turned (f g : GatedFilter α) : Prop where
  velocity : g.nav.velocity = f.nav.velocity
  position : g.nav.position = f.nav.position
  covariance : g.covariance = f.covariance
  outputs : g.outputs = f.outputs
  terrain : g.terrain = f.terrain

theorem turned_resetHeading (f : GatedFilter α) (field : Vec3 α) :
    Turned f (f.resetHeading field).2 := by
  unfold resetHeading
  split <;> exact ⟨rfl, rfl, rfl, rfl, rfl⟩

theorem turned_of_attempt {x : Context α} {s : Standing α} {f : GatedFilter α}
    {a : Alignment α (GatedFilter α)} (h : YawAttempt x s f a) : Turned f a.core := by
  cases h with
  | aligned | unseen => exact ⟨rfl, rfl, rfl, rfl, rfl⟩
  | @asked m _ _ _ _ answer =>
      have turned := f.turned_resetHeading m.field
      rw [show f.resetHeading m.field = _ from answer] at turned
      exact turned

end GatedFilter

/-! ## Starts -/

namespace Flow

/-- Flow can start as soon as yaw is aligned. -/
structure Ready (x : Context α) (s : Standing α) : Prop where
  unused : x.before.flow = false
  tiltAligned : x.before.tiltAligned = true
  recent : x.histories.flow.Recent x.clock.now x.settings.timeouts.flowDataMaxAge
  terrain : s.health.since .terrain x.clock.now < x.settings.timeouts.flowDataMaxAge

/-- The distance and the interval are large enough for a velocity. -/
def Telling (x : Context α) (range : α) (w : FlowSample α) : Prop :=
  0.3 < range - x.settings.groundClearance ∧ 0.05 < w.interval

/-- What a start without satellite navigation leaves of the filter `g` that it finds after the
attempt at yaw. -/
structure Seeded (x : Context α) (w : FlowSample α) (g g' : GatedFilter α) : Prop where
  attitude : g'.nav.attitude = g.nav.attitude
  descent : g'.nav.velocity.z = g.nav.velocity.z
  down : g'.nav.position.z = g.nav.position.z
  still : ¬ Telling x (groundRange x g) w → g'.nav.velocity.horizontal = .zero
  shown : Telling x (groundRange x g) w → g'.nav.velocity.horizontal =
    (g.nav.attitude.rotation.apply ⟨-groundRange x g * w.flow.y / w.interval,
      groundRange x g * w.flow.x / w.interval, 0.0⟩).horizontal
  velocityBlock : ∀ i j, Covariance.Touches 4 5 i j → g'.covariance.get i j =
    if i = j then groundRange x g * groundRange x g * g.flowVariance w else 0.0

/-- Besides, in the air nothing else is written. -/
structure SeededInAir (g g' : GatedFilter α) : Prop where
  position : g'.nav.position = g.nav.position
  rest : ∀ i j, ¬ Covariance.Touches 4 5 i j → g'.covariance.get i j = g.covariance.get i j
  jumps : g'.jumps = g.jumps
  outputs : g'.outputs = g.outputs

/-- Besides, on the ground the place becomes the origin, of which the outputs know. -/
structure SeededOnGround (g g' : GatedFilter α) : Prop where
  position : g'.nav.position.horizontal = .zero
  positionBlock : ∀ i j, Covariance.Touches 7 8 i j → g'.covariance.get i j = 0.0
  rest : ∀ i j, ¬ Covariance.Touches 4 5 i j → ¬ Covariance.Touches 7 8 i j →
    g'.covariance.get i j = g.covariance.get i j
  jumps : g'.jumps.pending = []
  outputs : ∀ u ∈ g'.outputs.samples, u.attitude = g'.nav.attitude ∧
    u.velocity = g'.nav.velocity ∧ u.position = g'.nav.position

variable {x : Context α} {s : Standing α} {w : FlowSample α} {f g : GatedFilter α}

omit [Scalar α] in
theorem wantsStart_iff : wantsStart x s = true ↔ Ready x s := by
  simp only [wantsStart, Bool.and_eq_true, Bool.not_eq_true', decide_eq_true_eq]
  constructor
  · rintro ⟨⟨⟨unused, tilt⟩, fresh⟩, terrain⟩
    exact ⟨unused, tilt, History.isFresh_iff.mp fresh, terrain⟩
  · rintro ⟨unused, tilt, recent, terrain⟩
    exact ⟨⟨⟨unused, tilt⟩, History.isFresh_iff.mpr recent⟩, terrain⟩

theorem get_seedVelocity (i j : Fin stateDim) : (seedVelocity x g w).covariance.get i j =
    if Covariance.Touches 4 5 i j then
      if i = j then groundRange x g * groundRange x g * g.flowVariance w else 0.0
    else g.covariance.get i j :=
  g.covariance.get_isolated Component.velNorth.state Component.velEast.state (by decide) _ i j

theorem get_seedOrigin (i j : Fin stateDim) : (seedOrigin g).covariance.get i j =
    if Covariance.Touches 7 8 i j then 0.0 else g.covariance.get i j := by
  have isolated := g.covariance.get_isolated Component.posNorth.state Component.posEast.state
    (by decide) 0.0 i j
  rw [ite_self] at isolated
  exact isolated

theorem seeded_seedVelocity : Seeded x w g (seedVelocity x g w) where
  attitude := rfl
  descent := rfl
  down := rfl
  still telling := if_neg telling
  shown telling := if_pos telling
  velocityBlock i j touches := by rw [get_seedVelocity, if_pos touches]

theorem seededInAir_seedVelocity : SeededInAir g (seedVelocity x g w) where
  position := rfl
  rest i j untouched := by rw [get_seedVelocity, if_neg untouched]
  jumps := rfl
  outputs := rfl

/-- The origin leaves what the flow shows. -/
theorem Seeded.seedOrigin {g' : GatedFilter α} (h : Seeded x w g g') :
    Seeded x w g (seedOrigin g') where
  attitude := h.attitude
  descent := h.descent
  down := h.down
  still := h.still
  shown := h.shown
  velocityBlock i j touches := by
    rw [get_seedOrigin]
    -- an entry of both blocks is off the diagonal
    by_cases moved : Covariance.Touches 7 8 i j
    · have apart : i ≠ j := by
        rintro rfl
        unfold Covariance.Touches at touches moved
        omega
      rw [if_pos moved, if_neg apart]
    · rw [if_neg moved, h.velocityBlock i j touches]

theorem seededOnGround_seedOrigin : SeededOnGround g (seedOrigin (seedVelocity x g w)) where
  position := rfl
  positionBlock i j touches := by rw [get_seedOrigin, if_pos touches]
  rest i j untouched unmoved := by
    rw [get_seedOrigin, if_neg unmoved, get_seedVelocity, if_neg untouched]
  jumps := rfl
  outputs u hu := by
    obtain ⟨v, -, rfl⟩ := List.mem_map.mp hu
    exact ⟨rfl, rfl, rfl⟩

theorem seed_seeded (alone : x.before.gps = false)
    (newest : x.histories.flow.newest? = some w) :
    let g' := (seed x g).1
    Seeded x w g g' ∧ (x.before.inAir = true → SeededInAir g g') ∧
      (x.before.inAir = false → SeededOnGround g g') := by
  unfold seed
  rw [if_neg (Bool.eq_false_iff.mp alone), newest]
  dsimp only
  cases x.before.inAir with
  | true => exact ⟨seeded_seedVelocity, fun _ => seededInAir_seedVelocity, nofun⟩
  | false => exact ⟨seeded_seedVelocity.seedOrigin, nofun, fun _ => seededOnGround_seedOrigin⟩

/-! ## The controller -/

theorem control_of_ready (allowed : x.settings.allowed.flow = true) (ready : Ready x s) :
    control x s f = start x s f := by
  unfold control
  rw [if_pos allowed, if_pos (wantsStart_iff.mpr ready)]

theorem control_of_unready (allowed : x.settings.allowed.flow = true) (unready : ¬ Ready x s) :
    .flowStarted ∉ (control x s f).events ∧ (control x s f).requests = [] := by
  unfold control
  rw [if_pos allowed, if_neg (mt wantsStart_iff.mp unready)]
  split
  · exact ⟨nofun, rfl⟩
  · exact ⟨List.not_mem_nil, rfl⟩

theorem started_iff (allowed : x.settings.allowed.flow = true) :
    .flowStarted ∈ (control x s f).events ↔ Ready x s ∧ x.YawReady s f := by
  by_cases ready : Ready x s
  · rw [control_of_ready allowed ready, ← (ofMag_attempt x s f).ready_iff]
    unfold start
    dsimp only
    split
    · next aligned => exact iff_of_true (List.mem_singleton_self _) ⟨ready, aligned⟩
    · next refused => exact iff_of_false List.not_mem_nil fun h => refused h.2
  · exact iff_of_false (control_of_unready allowed ready).1 fun h => ready h.1

/-- A start leaves what the seed makes of the filter after the attempt at yaw. -/
theorem core_of_started (allowed : x.settings.allowed.flow = true)
    (started : .flowStarted ∈ (control x s f).events) :
    (control x s f).core = (seed x (Alignment.ofMag x s f).core).1 := by
  obtain ⟨ready, yaw⟩ := (started_iff allowed).mp started
  rw [control_of_ready allowed ready]
  unfold start
  dsimp only
  rw [if_pos ((ofMag_attempt x s f).ready_iff.mpr yaw)]

end Flow

/-! ## The filter after a start -/

/-- Every call of the flow controller while flow is allowed, whatever the context, the standing and
the filter.  Flow starts exactly if tilt, a recent sample, a recent terrain height and yaw allow it,
and nothing is asked of the filter before the first three do.  A start beside satellite navigation
leaves the filter as the attempt at yaw left it; any other sets the horizontal velocity with its
variances and on the ground also the origin, and nothing else. -/
theorem flow_start (x : Context α) (s : Standing α) (f : GatedFilter α)
    (allowed : x.settings.allowed.flow = true) :
    let g := (Alignment.ofMag x s f).core
    let o := Flow.control x s f
    (.flowStarted ∈ o.events ↔ Flow.Ready x s ∧ x.YawReady s f) ∧
    (¬ Flow.Ready x s → o.requests = []) ∧
    (.flowStarted ∈ o.events →
      GatedFilter.Turned f g ∧
      (x.before.gps = true → o.core = g) ∧
      (x.before.gps = false → ∃ w, x.histories.flow.newest? = some w ∧
        Flow.Seeded x w g o.core ∧
        (x.before.inAir = true → Flow.SeededInAir g o.core) ∧
        (x.before.inAir = false → Flow.SeededOnGround g o.core))) := by
  intro g o
  refine ⟨Flow.started_iff allowed, fun unready => (Flow.control_of_unready allowed unready).2,
    fun started => ⟨GatedFilter.turned_of_attempt (ofMag_attempt x s f), fun beside => ?_,
      fun alone => ?_⟩⟩
  · rw [Flow.core_of_started allowed started]
    exact congrArg Prod.fst (if_pos beside)
  · obtain ⟨w, newest, -⟩ := ((Flow.started_iff allowed).mp started).1.recent
    rw [Flow.core_of_started allowed started]
    exact ⟨w, newest, Flow.seed_seeded alone newest⟩

/-- On the ground, with yaw aligned on the way: the place becomes the origin, and the jump of the
attempt at yaw does not wait any longer. -/
theorem flow_start_ground :
    let flow := historyOf [⟨980000, ⟨0.02, 0.01⟩, .zero, 0.1, 255⟩]
    let x : Context Float := ⟨⟨1000000, 900000⟩,
      { Settings.default with allowed := { flow := true } }, { poseAndField with flow },
      { Status.initial with tiltAligned := true }⟩
    let s : Standing Float :=
      { Standing.initial with health := { lastTerrain := some 990000 } }
    let f : GatedFilter Float :=
      { GatedFilter.levelled.predict 900000 0.1 true with
        nav := { NavState.initial with position := ⟨7.0, 8.0, -10.0⟩ } }
    let o := Flow.control x s f
    x.settings.allowed.flow = true ∧ .heading true ∈ o.requests ∧ .flowStarted ∈ o.events ∧
      o.core.nav.position.horizontal = .zero ∧ o.core.jumps.pending = [] ∧
      o.core.outputs.size = 1 ∧
      ∀ u ∈ o.core.outputs.samples, u.position = o.core.nav.position := by
  intro flow x s f o
  have ready : Flow.Ready x s := ⟨rfl, rfl, ⟨_, rfl, by decide⟩, by decide +kernel⟩
  have yaw : x.YawReady s f := Or.inr ⟨_, rfl, by decide +kernel⟩
  obtain ⟨started, -, left⟩ := flow_start x s f rfl
  have started := started.mpr ⟨ready, yaw⟩
  obtain ⟨-, -, seeded⟩ := left started
  obtain ⟨w, -, -, -, ground⟩ := seeded rfl
  have origin : Flow.SeededOnGround _ o.core := ground rfl
  exact ⟨rfl, by decide +kernel, started, origin.position, origin.jumps, by decide +kernel,
    fun u hu => (origin.outputs u hu).2.2⟩

end NavArbiter

/-
# The transitions of satellite navigation

One call of the controller of satellite navigation, from what was in use before the cycle and from
how the core answers:

    before         found                        answers                    afterwards
    not in use     not ready                    -                          as it was
                   ready, no yaw                -                          as it was
                   ready, yaw, flow in use      -                          in use
                   ready, yaw, no flow          position and velocity      in use, clocks now
                                                one of them refused        as it was, failure now
    beside flow    -                            -                          as it was
    alone          fused lately                 -                          as it was
                   not fused, stale             -                          given up, held in place
                   not fused, recent            velocity and position      in use, clocks now
                                                one of them refused        as it was

A start asks for position first and does not go on to velocity if that is refused; a recovery asks
for velocity first and for position in any case.  `Gps.Transition` has one constructor for each
row, with every answer of the core on the way and everything that is left, so that what is announced
can be read off it.
-/
import NavArbiter.Estimator.Impaired
import NavArbiter.Proofs.RecentResets

namespace NavArbiter

/-! ## What is written into the health -/

namespace Health

/-- The clocks of position and velocity show now, and nothing else differs. -/
structure Restarted (now : Time) (h h' : Health) : Prop where
  position : h'.clock .position = some now
  velocity : h'.clock .velocity = some now
  otherClocks : ∀ k, k ≠ .position → k ≠ .velocity → h'.clock k = h.clock k
  sensors : ∀ k, h'.sensor k = h.sensor k

/-- The failure of satellite navigation shows now, and nothing else differs. -/
structure GpsFailed (now : Time) (h h' : Health) : Prop where
  gps : h'.sensor .gps = { h.sensor .gps with lastFailure := some now }
  otherSensors : ∀ k, k ≠ .gps → h'.sensor k = h.sensor k
  clocks : ∀ k, h'.clock k = h.clock k

theorem restarted (now : Time) (h : Health) : Restarted now h (h.restartHorizontal now) where
  position := rfl
  velocity := rfl
  otherClocks k position velocity := by
    cases k with
    | position => exact absurd rfl position
    | velocity => exact absurd rfl velocity
    | _ => rfl
  sensors _ := rfl

theorem gpsFailed (now : Time) (h : Health) : GpsFailed now h (h.recordFailure .gps now) where
  gps := by rw [recordFailure, sensor_modifySensor, if_pos rfl]
  otherSensors k other := by rw [recordFailure, sensor_modifySensor, if_neg other.symm]
  clocks k := by cases k <;> rfl

end Health

namespace Gps

variable {α C : Type} [Estimator α C]

/-! ## The rows -/

/-- Satellite navigation can start as soon as yaw is aligned. -/
structure Ready (x : Context α) (s : Standing α) (c : C) : Prop where
  tiltAligned : x.before.tiltAligned = true
  recent : x.RecentHorizontal .gps
  origin : Estimator.originSet c = true
  cooledDown : x.settings.timeouts.gpsFailCooldown <
    (s.health.sensor .gps).sinceFailure x.clock.now

/-- Neither position nor velocity was fused for longer than the timeout. -/
def TimedOut (x : Context α) (s : Standing α) : Prop :=
  x.settings.timeouts.gpsFusionTimeout < s.health.since .position x.clock.now ∧
    x.settings.timeouts.gpsFusionTimeout < s.health.since .velocity x.clock.now

/-- The core consents to a reset of position and then to one of velocity. -/
def Granted (x : Context α) (c : C) : Prop :=
  let position := Estimator.resetPosition c .gps x.histories
  position.1 = true ∧ (Estimator.resetVelocity position.2 .gps x.histories).1 = true

instance (x : Context α) (c : C) : Decidable (Granted x c) := inferInstanceAs (Decidable (_ ∧ _))

/-- A start with yaw aligned. -/
inductive Activation (x : Context α) (s : Standing α) (c : C) : Outcome α C → Prop
  | besideFlow : x.before.flow = true →
      Activation x s c ⟨s.mapStatus fun t => { t with gps := true }, c, [.gpsStarted], []⟩
  | granted {c₁ c₂ : C} {h : Health} : x.before.flow = false →
      Estimator.resetPosition c .gps x.histories = (true, c₁) →
      Estimator.resetVelocity c₁ .gps x.histories = (true, c₂) →
      s.health.Restarted x.clock.now h →
      Activation x s c ⟨{ s.mapStatus fun t => { t with gps := true } with health := h }, c₂,
        [.gpsStarted], [.position .gps true, .velocity .gps true]⟩
  | positionRefused {c₁ : C} {h : Health} : x.before.flow = false →
      Estimator.resetPosition c .gps x.histories = (false, c₁) →
      s.health.GpsFailed x.clock.now h →
      Activation x s c ⟨{ s with health := h }, c₁, [.gpsActivationFailed],
        [.position .gps false]⟩
  | velocityRefused {c₁ c₂ : C} {h : Health} : x.before.flow = false →
      Estimator.resetPosition c .gps x.histories = (true, c₁) →
      Estimator.resetVelocity c₁ .gps x.histories = (false, c₂) →
      s.health.GpsFailed x.clock.now h →
      Activation x s c ⟨{ s with health := h }, c₂, [.gpsActivationFailed],
        [.position .gps true, .velocity .gps false]⟩

variable {x : Context α} {s : Standing α} {c : C} {o : Outcome α C}

theorem fresh_iff : fresh x = true ↔ x.RecentHorizontal .gps := History.isFresh_iff

theorem wantsStart_iff : wantsStart x s c = true ↔ Ready x s c := by
  simp only [wantsStart, Bool.and_eq_true, SensorHealth.canRetry, decide_eq_true_eq]
  constructor
  · rintro ⟨⟨⟨tilt, fresh⟩, origin⟩, cool⟩
    exact ⟨tilt, fresh_iff.mp fresh, origin, cool⟩
  · rintro ⟨tilt, recent, origin, cool⟩
    exact ⟨⟨⟨tilt, fresh_iff.mpr recent⟩, origin⟩, cool⟩

theorem timedOut_iff : timedOut x s = true ↔ TimedOut x s := by
  simp only [timedOut, TimedOut, Bool.and_eq_true, decide_eq_true_eq]

theorem activate_row : Activation x s c (activate x s c) := by
  unfold activate
  dsimp only
  split
  · next flow => exact .besideFlow flow
  · next flow =>
    have flow := Bool.eq_false_iff.mpr flow
    unfold resetBoth Estimator.askPosition Estimator.askVelocity
    rcases position : Estimator.resetPosition c .gps x.histories with ⟨p, c₁⟩
    cases p with
    | false => exact .positionRefused flow position (Health.gpsFailed _ _)
    | true =>
        rcases velocity : Estimator.resetVelocity c₁ .gps x.histories with ⟨v, c₂⟩
        simp only [if_true, velocity]
        cases v with
        | false => exact .velocityRefused flow position velocity (Health.gpsFailed _ _)
        | true => exact .granted flow position velocity (Health.restarted _ _)

theorem Activation.decided (h : Activation x s c o) :
    .gpsStarted ∈ o.events ∨ .gpsActivationFailed ∈ o.events := by
  cases h with
  | besideFlow | granted => exact Or.inl (List.mem_singleton_self _)
  | positionRefused | velocityRefused => exact Or.inr (List.mem_singleton_self _)

theorem Activation.started_iff (h : Activation x s c o) :
    .gpsStarted ∈ o.events ↔ x.before.flow = true ∨ Granted x c := by
  unfold Granted
  cases h with
  | besideFlow flow => simp [flow]
  | granted _ position velocity => simp [position, velocity]
  | positionRefused alone position => simp [alone, position]
  | velocityRefused alone position velocity => simp [alone, position, velocity]

/-! ## The controller -/

variable [Scalar α]

/-- A call while satellite navigation is allowed. -/
inductive Transition (x : Context α) (s : Standing α) (c : C) : Outcome α C → Prop
  | waiting : x.before.gps = false → ¬ Ready x s c → Transition x s c (.unchanged s c)
  | yawRefused {a : Alignment α C} : x.before.gps = false → Ready x s c → YawAttempt x s c a →
      a.standing.status.yawAligned = false → Transition x s c ⟨s, a.core, [], a.requests⟩
  | activated {a : Alignment α C} {o : Outcome α C} : x.before.gps = false → Ready x s c →
      YawAttempt x s c a → a.standing.status.yawAligned = true →
      Activation x a.standing a.core o →
      Transition x s c ⟨o.standing, o.core, o.events, a.requests ++ o.requests⟩
  | besideFlow : x.before.gps = true → x.before.flow = true → Transition x s c (.unchanged s c)
  | fused : x.before.gps = true → x.before.flow = false → ¬ TimedOut x s →
      Transition x s c (.unchanged s c)
  | lost {anchor : Vec2 α} : x.before.gps = true → x.before.flow = false → TimedOut x s →
      ¬ x.RecentHorizontal .gps → (Estimator.nav c).position.horizontal = anchor →
      Transition x s c ⟨{ s.mapStatus fun t => { t with gps := false } with anchor := anchor },
        Estimator.setNav c { Estimator.nav c with velocity := .zero }, [.gpsLost anchor], []⟩
  | recovered {c₁ c₂ : C} {h : Health} : x.before.gps = true → x.before.flow = false →
      TimedOut x s → x.RecentHorizontal .gps →
      Estimator.resetVelocity c .gps x.histories = (true, c₁) →
      Estimator.resetPosition c₁ .gps x.histories = (true, c₂) →
      s.health.Restarted x.clock.now h →
      Transition x s c ⟨{ s with health := h }, c₂, [.gpsResetToMeasurement],
        [.velocity .gps true, .position .gps true]⟩
  | notRecovered {c₁ c₂ : C} {v p : Bool} : x.before.gps = true → x.before.flow = false →
      TimedOut x s → x.RecentHorizontal .gps →
      Estimator.resetVelocity c .gps x.histories = (v, c₁) →
      Estimator.resetPosition c₁ .gps x.histories = (p, c₂) → (v && p) = false →
      Transition x s c ⟨s, c₂, [.gpsResetFailed], [.velocity .gps v, .position .gps p]⟩

theorem start_row (unused : x.before.gps = false) (ready : Ready x s c) :
    Transition x s c (start x s c) := by
  have attempt := ofMag_attempt x s c
  unfold start
  dsimp only
  split
  · next aligned => exact .activated unused ready attempt aligned activate_row
  · next refused =>
    have refused := Bool.eq_false_iff.mpr refused
    rw [attempt.standing_of_refused refused]
    exact .yawRefused unused ready attempt refused

theorem recover_row (used : x.before.gps = true) (alone : x.before.flow = false)
    (expired : TimedOut x s) (recent : x.RecentHorizontal .gps) :
    Transition x s c (recover x s c) := by
  unfold recover Estimator.askPosition Estimator.askVelocity
  rcases velocity : Estimator.resetVelocity c .gps x.histories with ⟨v, c₁⟩
  dsimp only
  rcases position : Estimator.resetPosition c₁ .gps x.histories with ⟨p, c₂⟩
  dsimp only
  split
  · next both =>
    obtain ⟨rfl, rfl⟩ := Bool.and_eq_true_iff.mp both
    exact .recovered used alone expired recent velocity position (Health.restarted _ _)
  · next refused =>
    exact .notRecovered used alone expired recent velocity position (Bool.eq_false_iff.mpr refused)

theorem control_row (allowed : x.settings.allowed.gps = true) :
    Transition x s c (control x s c) := by
  unfold control
  rw [if_pos allowed]
  split
  · next used =>
    split
    · next watched =>
      rw [Bool.and_eq_true, Bool.not_eq_true', timedOut_iff] at watched
      obtain ⟨alone, expired⟩ := watched
      split
      · next fresh => exact recover_row used alone expired (fresh_iff.mp fresh)
      · next stale => exact .lost used alone expired (mt fresh_iff.mpr stale) rfl
    · next unwatched =>
      rw [Bool.and_eq_true, Bool.not_eq_true', timedOut_iff] at unwatched
      cases flow : x.before.flow with
      | true => exact .besideFlow used flow
      | false => exact .fused used flow fun expired => unwatched ⟨flow, expired⟩
  · next unused =>
    have unused := Bool.eq_false_iff.mpr unused
    split
    · next wanted => exact start_row unused (wantsStart_iff.mp wanted)
    · next unwanted => exact .waiting unused (mt wantsStart_iff.mpr unwanted)

/-! ## What is announced -/

/-- Without yaw, or before it is wanted, nothing is announced. -/
theorem Transition.decided_iff (h : Transition x s c o) (unused : x.before.gps = false) :
    .gpsStarted ∈ o.events ∨ .gpsActivationFailed ∈ o.events ↔
      Ready x s c ∧ x.YawReady s c := by
  cases h with
  | waiting _ unready => simp [Outcome.unchanged, unready]
  | yawRefused _ _ attempt refused => simp [← attempt.ready_iff, refused]
  | activated _ ready attempt aligned activation =>
      exact iff_of_true activation.decided ⟨ready, attempt.ready_iff.mp aligned⟩
  | besideFlow used | fused used | lost used | recovered used | notRecovered used =>
      rw [unused] at used
      cases used

theorem Transition.started_iff (h : Transition x s c o) (unused : x.before.gps = false) :
    .gpsStarted ∈ o.events ↔ Ready x s c ∧ x.YawReady s c ∧
      (x.before.flow = true ∨ Granted x (Alignment.ofMag x s c).core) := by
  cases h with
  | waiting _ unready => simp [Outcome.unchanged, unready]
  | yawRefused _ _ attempt refused => simp [← attempt.ready_iff, refused]
  | activated _ ready attempt aligned activation =>
      rw [activation.started_iff, ← attempt.ready_iff, ← attempt.eq_ofMag]
      simp [ready, aligned]
  | besideFlow used | fused used | lost used | recovered used | notRecovered used =>
      rw [unused] at used
      cases used

theorem Transition.unchanged_iff (h : Transition x s c o) (used : x.before.gps = true) :
    o = .unchanged s c ↔ x.before.flow = true ∨ ¬ TimedOut x s := by
  cases h with
  | waiting unused | yawRefused unused | activated unused =>
      rw [used] at unused
      cases unused
  | besideFlow _ flow => exact iff_of_true rfl (Or.inl flow)
  | fused _ _ fused => exact iff_of_true rfl (Or.inr fused)
  | lost _ alone expired | recovered _ alone expired | notRecovered _ alone expired =>
      have announced : ∀ {s' c' rs} (e : Event α),
          Outcome.mk s' c' [e] rs ≠ .unchanged s c := fun _ same => by cases same
      exact iff_of_false (announced _) (by simp [alone, expired])

end Gps

/-! ## The transition law -/

/-- Every call of the controller while satellite navigation is allowed, whatever the context, the
standing and the core, is a row of the table.  From out of use, a start or its failure is announced
exactly if tilt, a recent fix, the origin, the cooldown and yaw allow it, and a start exactly if
moreover flow is in use or both resets are granted.  In use, something happens exactly if flow is
not in use and both clocks have run out. -/
theorem gps_transitions {α C : Type} [Scalar α] [Estimator α C] (x : Context α) (s : Standing α)
    (c : C) (allowed : x.settings.allowed.gps = true) :
    let o := Gps.control x s c
    Gps.Transition x s c o ∧
    (x.before.gps = false →
      (.gpsStarted ∈ o.events ∨ .gpsActivationFailed ∈ o.events ↔
        Gps.Ready x s c ∧ x.YawReady s c) ∧
      (.gpsStarted ∈ o.events ↔ Gps.Ready x s c ∧ x.YawReady s c ∧
        (x.before.flow = true ∨ Gps.Granted x (Alignment.ofMag x s c).core))) ∧
    (x.before.gps = true →
      (o = .unchanged s c ↔ x.before.flow = true ∨ ¬ Gps.TimedOut x s)) := by
  intro o
  have row : Gps.Transition x s c o := Gps.control_row allowed
  exact ⟨row, fun unused => ⟨row.decided_iff unused, row.started_iff unused⟩, row.unchanged_iff⟩

/-- Yaw is aligned on the way and position is granted, but not velocity: the start fails. -/
theorem gps_transitions_refused :
    let x : Context Float := ⟨⟨1000000, 900000⟩, .default,
      { poseAndField with gps := fixesAt [950000] }, { Status.initial with tiltAligned := true }⟩
    let core : Impaired Float (GatedFilter Float) :=
      { core := { GatedFilter.levelled with originSet := true }, blocked := { velocity := true } }
    let o := Gps.control x .initial core
    x.settings.allowed.gps = true ∧ x.before.gps = false ∧
      x.YawReady .initial core ∧ .gpsStarted ∉ o.events ∧ .gpsActivationFailed ∈ o.events := by
  intro x core o
  have ready : Gps.Ready x .initial core :=
    ⟨rfl, ⟨_, rfl, by decide⟩, by decide +kernel, by decide +kernel⟩
  have yaw : x.YawReady .initial core := Or.inr ⟨_, rfl, by decide +kernel⟩
  obtain ⟨-, decided, -⟩ := gps_transitions x .initial core rfl
  obtain ⟨decided, started⟩ := decided rfl
  have refused : .gpsStarted ∉ o.events := by
    rw [started]
    rintro ⟨-, -, flow | granted⟩
    · cases flow
    · revert granted
      decide +kernel
  exact ⟨rfl, rfl, yaw, refused, (decided.mpr ⟨ready, yaw⟩).resolve_left refused⟩

end NavArbiter

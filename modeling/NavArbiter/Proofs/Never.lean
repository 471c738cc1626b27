/-
# What never happened is infinitely old

The age of what never happened is written as the largest number that a clock can show, and compared
with a limit like any other age:

    never                       limit                 compared      the limit is the largest number
    height fused                height timeout        limit < age   height does not time out
    position, velocity fused    satellite timeout     limit < age   satellite fusion is not lost
    flow fused                  flow timeout          limit < age   flow is not lost
    satellite start failed      cooldown              limit < age   a start has to wait for ever
    airspeed fused              airspeed timeout      age ≤ limit   wind is valid
    terrain known               flow data age         age < limit   flow does not start (right)
    inertial fault suspected    memory of faults      age < limit   no recent fault (right)

No document gives a limit above the largest number (`Settings.onClock_of_read`), so the last two are
right whatever the limit.  The other five take that number, as a limit, for as old as what never
happened.  Below it all of them are right, but a check of the settings admits it
(`Settings.unlimited`).
-/
import NavArbiter.Proofs.FlowStart
import NavArbiter.Proofs.GpsTransitions
import NavArbiter.Proofs.HeightCommit
import NavArbiter.Proofs.RecordDecoding
import NavArbiter.Proofs.WindValidity
import NavArbiter.Settings.Json

namespace NavArbiter

/-! ## The age of what never happened -/

/-- A clock can show every age that is a limit. -/
structure Timeouts.OnClock {α : Type} (t : Timeouts α) : Prop where
  gpsFailCooldown : t.gpsFailCooldown ≤ Time.last
  gpsFusionTimeout : t.gpsFusionTimeout ≤ Time.last
  gpsDataMaxAge : t.gpsDataMaxAge ≤ Time.last
  flowFusionTimeout : t.flowFusionTimeout ≤ Time.last
  flowDataMaxAge : t.flowDataMaxAge ≤ Time.last
  heightFusionTimeout : t.heightFusionTimeout ≤ Time.last
  inertialFaultMemory : t.inertialFaultMemory ≤ Time.last
  airspeedTimeout : t.airspeedTimeout ≤ Time.last

namespace Time

variable {limit : Nat} {now : Time} {t : Option Time}

theorem limit_lt_ageOf_iff (never : t = none) (limited : limit ≤ last) :
    limit < ageOf now t ↔ limit ≠ last := by
  subst never
  exact limited.lt_iff_ne

theorem ageOf_le_limit_iff (never : t = none) (limited : limit ≤ last) :
    ageOf now t ≤ limit ↔ limit = last := by
  subst never
  exact ⟨limited.antisymm, fun h => h.ge⟩

theorem not_ageOf_lt_limit (never : t = none) (limited : limit ≤ last) :
    ¬ ageOf now t < limit := by
  subst never
  exact Nat.not_lt.mpr limited

end Time

/-! ## Limits from documents -/

section Documents

open Json

theorem Timeouts.onClock_default : (default : Timeouts Float).OnClock :=
  ⟨by decide, by decide, by decide, by decide, by decide, by decide, by decide, by decide⟩

/-- A field that stores a time keeps the limits on the clock, if it stores it into one of them. -/
theorem Timeouts.keeps_time {name : String} {presence : Decode.Presence}
    {set : Nat → Timeouts Float → Timeouts Float}
    (stored : ∀ t ≤ Time.last, ∀ x : Timeouts Float, x.OnClock → (set t x).OnClock) :
    (Decode.Field.field name presence Decode.time set).Keeps OnClock :=
  Decode.Field.keeps_field (fun _ _ decoded => Nat.le_of_lt_succ (Decode.time_lt decoded)) stored

theorem Timeouts.onClock_of_decode {n : Node} {t : Timeouts Float} (decoded : decode n = .ok t) :
    t.OnClock := by
  refine Decode.record_keeps ?_ decoded onClock_default
  simp only [fields, List.forall_mem_cons]
  exact ⟨keeps_time fun _ ht _ h => { h with gpsFailCooldown := ht },
    keeps_time fun _ ht _ h => { h with gpsFusionTimeout := ht },
    keeps_time fun _ ht _ h => { h with gpsDataMaxAge := ht },
    keeps_time fun _ ht _ h => { h with flowFusionTimeout := ht },
    keeps_time fun _ ht _ h => { h with flowDataMaxAge := ht },
    keeps_time fun _ ht _ h => { h with heightFusionTimeout := ht },
    keeps_time fun _ ht _ h => { h with inertialFaultMemory := ht },
    keeps_time fun _ ht _ h => { h with airspeedTimeout := ht },
    Decode.Field.keeps_of_set fun _ _ h => { h with },
    Decode.Field.keeps_of_set fun _ _ h => { h with }, List.forall_mem_nil _⟩

theorem Settings.onClock_of_decode {n : Node} {s : Settings Float} (decoded : decode n = .ok s) :
    s.timeouts.OnClock := by
  refine Decode.record_keeps (P := fun s => s.timeouts.OnClock) ?_ decoded Timeouts.onClock_default
  simp only [fields, List.forall_mem_cons]
  refine ⟨?_, ?_, ?_, ?_, ?_, ?_, ?_, ?_, ?_, ?_, ?_, ?_, ?_, ?_, ?_, ?_, ?timeouts,
    List.forall_mem_nil _⟩
  case timeouts =>
    exact Decode.Field.keeps_field (fun _ _ => Timeouts.onClock_of_decode) fun _ ht _ _ => ht
  all_goals exact Decode.Field.keeps_of_set fun _ _ h => h

/-- Documents give no other limits. -/
theorem Settings.onClock_of_read {os : Octets} {s : Settings Float} (accepted : read os = .ok s) :
    s.timeouts.OnClock := by
  unfold read at accepted
  split at accepted
  · cases accepted
  · next settings decoded =>
    obtain ⟨_, decoded, rest⟩ := Decode.exists_of_bind_eq_ok decoded
    obtain ⟨_, -, same⟩ := Decode.exists_of_bind_eq_ok rest
    cases same
    split at accepted
    · cases accepted
    · cases accepted
      exact onClock_of_decode decoded

end Documents

/-! ## What the controllers make of it -/

variable {α C : Type} [Scalar α] [Estimator α C] {x : Context α} {s : Standing α} {c : C}

/-- A timeout of height is answered, and nothing else is. -/
theorem answered_iff :
    (∃ e ∈ (Height.control x s c).events, e.answersTimeout = true) ↔ Height.Due x s c := by
  constructor
  · rintro ⟨e, announced, answers⟩
    by_contra due
    have mem := List.mem_filter.mpr ⟨announced, answers⟩
    rw [answers_eq, watched_of_not_due x s c due] at mem
    exact absurd mem List.not_mem_nil
  · intro due
    rcases call_of_due due with ⟨-, -, denied⟩ | ⟨target, granted, -, -, -, answered⟩
    · exact ⟨_, denied, rfl⟩
    · exact ⟨_, answered, by cases granted <;> rfl⟩

theorem flowLost_iff (allowed : x.settings.allowed.flow = true) (used : x.before.flow = true)
    (alone : x.before.gps = false) :
    (∃ anchor, .flowLost anchor ∈ (Flow.control x s c).events) ↔
      x.settings.timeouts.flowFusionTimeout <
        (s.health.sensor .flow).sinceFusion x.clock.now := by
  have waiting : Flow.wantsStart x s ≠ true := fun h =>
    Bool.false_ne_true ((Flow.wantsStart_iff.mp h).unused.symm.trans used)
  have lost : Flow.isLost x s = true ↔ x.settings.timeouts.flowFusionTimeout <
      (s.health.sensor .flow).sinceFusion x.clock.now := by
    simp [Flow.isLost, used, alone]
  unfold Flow.control
  rw [if_pos allowed, if_neg waiting, ← lost]
  split
  · next h => exact iff_of_true ⟨_, List.mem_singleton_self _⟩ h
  · next h =>
    refine iff_of_false ?_ h
    rintro ⟨_, announced⟩
    exact absurd announced List.not_mem_nil

theorem flowStarted_notMem (unready : ¬ Flow.Ready x s) :
    .flowStarted ∉ (Flow.control x s c).events := by
  unfold Flow.control
  rw [if_neg (mt Flow.wantsStart_iff.mp unready)]
  split <;> split <;> simp [Flow.giveUp, Outcome.unchanged]

/-- What the controllers make of what never happened, whatever else they find. -/
structure NeverIsOld (x : Context α) (s : Standing α) (c : C) : Prop where
  /-- An uncertain height that was never corrected has timed out. -/
  height : s.health.clock .height = none →
    ¬ Estimator.variance c .posDown ≤ x.settings.heightResetLimit * x.settings.heightResetLimit →
    ((∃ e ∈ (Height.control x s c).events, e.answersTimeout = true) ↔
      x.settings.timeouts.heightFusionTimeout ≠ Time.last)
  /-- Satellite navigation that never corrected anything is given up or reset. -/
  satellite : s.health.clock .position = none → s.health.clock .velocity = none →
    x.settings.allowed.gps = true → x.before.gps = true → x.before.flow = false →
    (Gps.control x s c ≠ .unchanged s c ↔ x.settings.timeouts.gpsFusionTimeout ≠ Time.last)
  /-- Flow that was never fused is lost. -/
  flow : (s.health.sensor .flow).lastFusion = none →
    x.settings.allowed.flow = true → x.before.flow = true → x.before.gps = false →
    ((∃ anchor, .flowLost anchor ∈ (Flow.control x s c).events) ↔
      x.settings.timeouts.flowFusionTimeout ≠ Time.last)
  /-- No cooldown holds up the first start of satellite navigation. -/
  retry : (s.health.sensor .gps).lastFailure = none →
    ((s.health.sensor .gps).canRetry x.clock.now x.settings.timeouts.gpsFailCooldown = true ↔
      x.settings.timeouts.gpsFailCooldown ≠ Time.last)
  start : (s.health.sensor .gps).lastFailure = none →
    x.settings.allowed.gps = true → x.before.gps = false → x.before.tiltAligned = true →
    x.RecentHorizontal .gps → Estimator.originSet c = true → x.YawReady s c →
    (.gpsStarted ∈ (Gps.control x s c).events ∨
        .gpsActivationFailed ∈ (Gps.control x s c).events ↔
      x.settings.timeouts.gpsFailCooldown ≠ Time.last)
  /-- A wind without any airspeed is not valid, unless it was so before vision observed yaw. -/
  wind : (s.health.sensor .airspeed).lastFusion = none →
    let t := (Mag.control x s c).standing.status
    (t.windValid = true ↔ if t.visionYaw = true then s.status.windValid = true
      else x.settings.timeouts.airspeedTimeout = Time.last)
  /-- Flow does not start over a terrain that was never known. -/
  terrain : s.health.clock .terrain = none →
    ¬ Flow.Ready x s ∧ .flowStarted ∉ (Flow.control x s c).events
  /-- Only a fault that is suspected in the same call counts as recent. -/
  inertial : s.health.clock .inertialFault = none →
    (Height.SuspectedLately x s c ↔ .inertialFaultSuspected ∈ (Height.control x s c).events ∧
      0 < x.settings.timeouts.inertialFaultMemory)

/-- Whatever a clock can show as a limit: what never happened exceeds it, unless it is the largest
number; and it never lies within a limit that an age has to stay below. -/
theorem never_old (x : Context α) (s : Standing α) (c : C)
    (limits : x.settings.timeouts.OnClock) : NeverIsOld x s c where
  height never uncertain := by
    rw [answered_iff, Height.Due, Health.since, and_iff_right uncertain]
    exact Time.limit_lt_ageOf_iff never limits.heightFusionTimeout
  satellite position velocity allowed used alone := by
    have unchanged := (Gps.control_row (s := s) (c := c) allowed).unchanged_iff used
    rw [ne_eq, unchanged, alone, or_iff_right Bool.false_ne_true, not_not, Gps.TimedOut]
    have expired {k : FusionClock} (never : s.health.clock k = none) :
        x.settings.timeouts.gpsFusionTimeout < s.health.since k x.clock.now ↔
          x.settings.timeouts.gpsFusionTimeout ≠ Time.last :=
      Time.limit_lt_ageOf_iff never limits.gpsFusionTimeout
    rw [expired position, expired velocity, and_self]
  flow never allowed used alone := by
    rw [flowLost_iff allowed used alone]
    exact Time.limit_lt_ageOf_iff never limits.flowFusionTimeout
  retry never := by
    rw [SensorHealth.canRetry, decide_eq_true_eq]
    exact Time.limit_lt_ageOf_iff never limits.gpsFailCooldown
  start never allowed unused tilt recent origin yaw := by
    rw [(Gps.control_row allowed).decided_iff unused, and_iff_left yaw]
    have cooled : x.settings.timeouts.gpsFailCooldown <
        (s.health.sensor .gps).sinceFailure x.clock.now ↔
          x.settings.timeouts.gpsFailCooldown ≠ Time.last :=
      Time.limit_lt_ageOf_iff never limits.gpsFailCooldown
    exact ⟨fun ready => cooled.mp ready.cooledDown,
      fun h => ⟨tilt, recent, origin, cooled.mpr h⟩⟩
  wind never := by
    intro t
    obtain ⟨kept, decided⟩ := wind_settle x s c
    have fused : ((Mag.control x s c).standing.health.sensor .airspeed).lastFusion = none :=
      (mag_owned x s c (.fusion .airspeed) (by decide)).trans never
    split
    · next vision => exact iff_of_eq (congrArg (· = true) (kept vision))
    · next other =>
      rw [show t.windValid = _ from decided (Bool.eq_false_iff.mpr other), decide_eq_true_eq]
      exact Time.ageOf_le_limit_iff fused limits.airspeedTimeout
  terrain never := by
    have unready : ¬ Flow.Ready x s := fun ready =>
      Time.not_ageOf_lt_limit never limits.flowDataMaxAge ready.terrain
    exact ⟨unready, flowStarted_notMem unready⟩
  inertial never := or_iff_right (Time.not_ageOf_lt_limit never limits.inertialFaultMemory)

/-- Under the default limits, satellite navigation that was started but never corrected anything is
given up, and flow does not start over a terrain that was never known. -/
theorem never_old_default :
    let settings : Settings Float := { Settings.default with allowed := { flow := true } }
    let x : Context Float := ⟨⟨1000000, 900000⟩, settings, noSamples,
      { Status.initial with tiltAligned := true, yawAligned := true, gps := true }⟩
    let core : GatedFilter Float := .levelled
    x.settings.timeouts.OnClock ∧ Gps.control x .initial core ≠ .unchanged .initial core ∧
      .flowStarted ∉ (Flow.control x .initial core).events := by
  intro settings x core
  have limits : x.settings.timeouts.OnClock := Timeouts.onClock_default
  have never := never_old x .initial core limits
  refine ⟨limits, ?_, (never.terrain rfl).2⟩
  exact (never.satellite rfl rfl rfl rfl rfl).mpr (by decide)

/-- Settings whose limits an age does not exceed. -/
def Settings.unlimited : Settings Float :=
  { Settings.default with
    allowed := { flow := true }
    timeouts := { Timeouts.default with
      gpsFailCooldown := Time.last
      gpsFusionTimeout := Time.last
      flowFusionTimeout := Time.last
      heightFusionTimeout := Time.last
      airspeedTimeout := Time.last } }

/-- They are accepted, and five decisions take what never happened for recent: an uncertain height
stays without an answer, satellite navigation and flow stay in use, satellite navigation does not
start although it never failed, and the wind becomes valid. -/
theorem never_recent_unlimited :
    let context (before : Status) : Context Float := ⟨⟨1000000, 900000⟩, .unlimited,
      { noSamples with gps := fixesAt [950000] }, before⟩
    let aligned : Status := { Status.initial with tiltAligned := true, yawAligned := true }
    let core : GatedFilter Float :=
      Estimator.setVariance { GatedFilter.levelled with originSet := true } .posDown 30.0
    let idle := context aligned
    let aided := context { aligned with gps := true }
    let flying := context { aligned with flow := true }
    Settings.unlimited.check = .ok () ∧ Settings.unlimited.timeouts.OnClock ∧
    (Height.control idle .initial core).events = [] ∧
    (Gps.control aided .initial core).events = [] ∧
    (Flow.control flying .initial core).events = [] ∧
    (Gps.control idle .initial core).events = [] ∧
    (Mag.control idle .initial core).standing.status.windValid = true := by
  intro context aligned core idle aided flying
  have limits : Settings.unlimited.timeouts.OnClock :=
    ⟨by decide, by decide, by decide, by decide, by decide, by decide, by decide, by decide⟩
  refine ⟨rfl, limits, ?_, ?_, ?_, ?_, by decide +kernel⟩ <;>
    exact List.isEmpty_iff.mp (by decide +kernel)

end NavArbiter

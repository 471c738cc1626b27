/-
# Cooldown after a failed start

A start of satellite navigation that fails is noted with its time, and another is tried only after
the cooldown.  Fusions and the other stages leave the time of the failure alone, and a later
failure only puts it off, so whichever way the clock goes there is neither a start nor another
failure up to the end of the cooldown.

The cooldown is about starts.  Satellite navigation that is in use is reset to its measurement
whenever it was not fused for too long, and nothing asks for the last failure then.  Such a reset
can fall into the cooldown only if the clock was set back: what is in use was started after the
failure, hence past the cooldown.
-/
import NavArbiter.Proofs.FusionTimes
import NavArbiter.Proofs.Stages
import NavArbiter.Proofs.StatusLaws

namespace NavArbiter

/-- A reset of position or velocity to satellite navigation, granted or not. -/
def Request.resetsToGps : Request → Bool
  | .position .gps _ => true
  | .velocity .gps _ => true
  | _ => false

/-- A start of satellite navigation failed at `t` or later. -/
def Health.FailedSince (t : Time) (h : Health) : Prop :=
  ∃ u, (h.sensor .gps).lastFailure = some u ∧ t ≤ u

namespace Health.FailedSince

variable {t : Time} {h h' : Health}

theorem congr (hf : h.FailedSince t)
    (he : (h'.sensor .gps).lastFailure = (h.sensor .gps).lastFailure) : h'.FailedSince t := by
  obtain ⟨u, hu, htu⟩ := hf
  exact ⟨u, he.trans hu, htu⟩

/-- Whoever may try again does so past the cooldown. -/
theorem lt_of_canRetry {now : Time} {cooldown : Nat} (hf : h.FailedSince t)
    (hr : (h.sensor .gps).canRetry now cooldown = true) : t + cooldown < now := by
  obtain ⟨u, hu, htu⟩ := hf
  have past : cooldown < now - u := by
    simpa [SensorHealth.canRetry, SensorHealth.sinceFailure, hu] using hr
  calc t + cooldown ≤ u + cooldown := Nat.add_le_add_right htu _
    _ < now := by rw [Nat.add_comm]; exact Nat.add_lt_of_lt_sub past

end Health.FailedSince

/-! ## Who writes the time of a failure -/

namespace Health

theorem lastFailure_modifySensor (h : Health) (s t : Sensor) {f : SensorHealth → SensorHealth}
    (hf : (f (h.sensor s)).lastFailure = (h.sensor s).lastFailure) :
    ((h.modifySensor s f).sensor t).lastFailure = (h.sensor t).lastFailure := by
  rw [sensor_modifySensor]
  split
  · next hst =>
    rw [hf, hst]
  · rfl

theorem lastFailure_recordFusion (h : Health) (s t : Sensor) (now : Time) :
    ((h.recordFusion s now).sensor t).lastFailure = (h.sensor t).lastFailure :=
  lastFailure_modifySensor h s t rfl

theorem lastFailure_setFaulty (h : Health) (s t : Sensor) (faulty : Bool) :
    ((h.setFaulty s faulty).sensor t).lastFailure = (h.sensor t).lastFailure :=
  lastFailure_modifySensor h s t rfl

theorem lastFailure_recordFailure (h : Health) (s : Sensor) (now : Time) :
    ((h.recordFailure s now).sensor s).lastFailure = some now := by
  rw [recordFailure, sensor_modifySensor, if_pos rfl]

theorem lastFailure_healthAfterReset (h : Health) (source target : HeightSource) (now : Time)
    (t : Sensor) : ((Height.healthAfterReset h source target now).sensor t).lastFailure =
      (h.sensor t).lastFailure := by
  refine (lastFailure_setFaulty _ target.sensor t false).trans ?_
  split
  · rfl
  · exact lastFailure_setFaulty _ _ _ _

end Health

/-! ## One cycle -/

section Decision

variable {α C : Type} [Scalar α] [Estimator α C] {x : Context α} {s : Standing α} {c : C}
  {o : Outcome α C} {t : Time}

/-- Only a start that fails writes the time of a failure. -/
theorem failure_decision (h : Decision x s c o) :
    (o.standing.health.sensor .gps).lastFailure = (s.health.sensor .gps).lastFailure ∨
      GpsDue x s ∧ (o.standing.health.sensor .gps).lastFailure = some x.clock.now := by
  cases h with
  | startFlow => exact Or.inl (Health.lastFailure_recordFusion _ _ _ _)
  | failGps _ _ hd => exact Or.inr ⟨hd, Health.lastFailure_recordFailure _ _ _⟩
  | resetHeight => exact Or.inl (Health.lastFailure_healthAfterReset _ _ _ _ _)
  | _ => exact Or.inl rfl

theorem failedSince_decision (hf : s.health.FailedSince t) (h : Decision x s c o) :
    o.standing.health.FailedSince t := by
  rcases failure_decision h with he | ⟨hd, he⟩
  · exact hf.congr he
  -- whichever way the clock went, the next failure comes past the cooldown of the last
  · exact ⟨_, he, (Nat.le_add_right _ _).trans (hf.lt_of_canRetry hd.cooledDown).le⟩

theorem failed_decision (h : Decision x s c o) (he : .gpsActivationFailed ∈ o.events) :
    GpsDue x s ∧ o.standing.health.FailedSince x.clock.now := by
  cases h with
  | failGps _ _ hd =>
      exact ⟨hd, _, Health.lastFailure_recordFailure _ _ _, Nat.le_refl _⟩
  | _ => simp at he

theorem started_decision (h : Decision x s c o) (he : .gpsStarted ∈ o.events) : GpsDue x s := by
  cases h with
  | startGpsBesideFlow _ hd _ | startGps _ hd _ => exact hd
  | _ => simp at he

theorem inUse_decision (h : Decision x s c o) (hg : o.standing.status.gps = true) :
    s.status.gps = true ∨ .gpsStarted ∈ o.events := by
  cases h with
  | startGpsBesideFlow | startGps => exact Or.inr (List.mem_singleton_self _)
  | loseGps | disableGps => cases hg
  | settleMag | enterThreeAxis =>
      rw [decideStatus_gps] at hg
      exact Or.inl hg
  | _ => exact Or.inl hg

/-- An attempt at a heading resets nothing else. -/
theorem HeadingAttempt.resetsToGps {granted : Bool} {rs : List Request} {r : Request}
    (h : HeadingAttempt granted rs) (hr : r ∈ rs) : r.resetsToGps = false := by
  rcases h with rfl | ⟨-, rfl⟩
  · rw [List.mem_singleton.mp hr]
    rfl
  · exact absurd hr List.not_mem_nil

/-- Resets to satellite navigation are made to start it and to recover it. -/
theorem reset_decision (h : Decision x s c o) {r : Request} (hr : r ∈ o.requests)
    (hg : r.resetsToGps = true) : GpsDue x s ∨ x.before.gps = true ∧
      (.gpsResetToMeasurement ∈ o.events ∨ .gpsResetFailed ∈ o.events) := by
  cases h with
  | startGps _ hd _ | failGps _ _ hd _ _ => exact Or.inl hd
  | recoverGps _ hb => exact Or.inr ⟨hb, Or.inl (List.mem_singleton_self _)⟩
  | failRecovery _ hb => exact Or.inr ⟨hb, Or.inr (List.mem_singleton_self _)⟩
  | alignTilt _ _ _ _ ha | alignYaw _ _ _ _ ha | enterThreeAxis _ _ _ _ _ ha =>
      exact absurd hg (Bool.eq_false_iff.mp (ha.resetsToGps hr))
  | startFlow =>
      dsimp only at hr
      split at hr
      · exact absurd hr List.not_mem_nil
      · rw [List.mem_singleton.mp hr] at hg
        cases hg
  | startVisionPosition | refuseVisionPosition =>
      simp only [List.mem_cons, List.not_mem_nil, or_false] at hr
      rcases hr with rfl | rfl | rfl <;> cases hg
  | refreshDeclination | resetHeight | failHeightReset =>
      rw [List.mem_singleton.mp hr] at hg
      cases hg
  | _ => exact absurd hr List.not_mem_nil

/-- What a cycle has kept so far after a failure at `t` or later. -/
structure Cooling (x : Context α) (t : Time) (o : Outcome α C) : Prop where
  failed : o.standing.health.FailedSince t
  started : .gpsStarted ∈ o.events → t + x.settings.timeouts.gpsFailCooldown < x.clock.now
  failedAgain : .gpsActivationFailed ∈ o.events →
    t + x.settings.timeouts.gpsFailCooldown < x.clock.now
  reset : ∀ r ∈ o.requests, r.resetsToGps = true →
    t + x.settings.timeouts.gpsFailCooldown < x.clock.now ∨ x.before.gps = true ∧
      (.gpsResetToMeasurement ∈ o.events ∨ .gpsResetFailed ∈ o.events)

theorem Cooling.more {o p : Outcome α C} (h : Cooling x t o)
    (hd : Decision x o.standing o.core p) : Cooling x t (o.andThen fun _ _ => p) where
  failed := failedSince_decision (o := p) h.failed hd
  started he := (List.mem_append.mp he).elim h.started fun he =>
    h.failed.lt_of_canRetry (started_decision hd he).cooledDown
  failedAgain he := (List.mem_append.mp he).elim h.failedAgain fun he =>
    h.failed.lt_of_canRetry (failed_decision hd he).1.cooledDown
  reset r hr hg := by
    rcases List.mem_append.mp hr with hr | hr
    · exact (h.reset r hr hg).imp_right fun ⟨hb, he⟩ =>
        ⟨hb, he.imp (List.mem_append_left _) (List.mem_append_left _)⟩
    · refine (reset_decision hd hr hg).imp (fun hd => h.failed.lt_of_canRetry hd.cooledDown) ?_
      exact fun ⟨hb, he⟩ => ⟨hb, he.imp (List.mem_append_right _) (List.mem_append_right _)⟩

theorem cooling_settled (x : Context α) (c : C) (hf : s.health.FailedSince t) :
    Cooling x t (Arbiter.settled x s c) := by
  have start : Cooling x t (.unchanged s c) :=
    ⟨hf, fun h => absurd h List.not_mem_nil, fun h => absurd h List.not_mem_nil,
      fun _ h => absurd h List.not_mem_nil⟩
  exact (Arbiter.settled_decisions x s c).keep start fun _ _ h hd => h.more hd

/-- A cycle in which a start fails found satellite navigation out of use, and leaves the failure
noted. -/
theorem failed_settled (x : Context α) (s : Standing α) (c : C) :
    let o := Arbiter.settled x s c
    .gpsActivationFailed ∈ o.events →
      x.before.gps = false ∧ o.standing.health.FailedSince x.clock.now := by
  refine (Arbiter.settled_decisions x s c).keep
    (P := fun o => .gpsActivationFailed ∈ o.events →
      x.before.gps = false ∧ o.standing.health.FailedSince x.clock.now)
    (fun h => absurd h List.not_mem_nil) ?_
  intro o p ih hd he
  rcases List.mem_append.mp he with he | he
  · exact ⟨(ih he).1, failedSince_decision (o := p) (ih he).2 hd⟩
  · exact ⟨(failed_decision hd he).1.unused, (failed_decision hd he).2⟩

theorem inUse_settled (x : Context α) (s : Standing α) (c : C) :
    let o := Arbiter.settled x s c
    o.standing.status.gps = true → s.status.gps = true ∨ .gpsStarted ∈ o.events := by
  refine (Arbiter.settled_decisions x s c).keep
    (P := fun o => o.standing.status.gps = true → s.status.gps = true ∨ .gpsStarted ∈ o.events)
    Or.inl ?_
  intro o p ih hd hg
  rcases inUse_decision (o := p) hd hg with hg | he
  · exact (ih hg).imp_right (List.mem_append_left _)
  · exact Or.inr (List.mem_append_right _ he)

end Decision

/-! ## Flights -/

namespace Flight

variable {α C : Type} [Scalar α] [FilterCore α C] {f : Flight α C} {t : Time}

theorem failedSince_step (hf : f.arbiter.standing.health.FailedSince t) (k : FlightStep α C) :
    (f.step k).arbiter.standing.health.FailedSince t := by
  cases k with
  | update clock h =>
      rw [standing_update]
      exact (cooling_settled (f.arbiter.context clock h) f.core hf).failed
  | setInAir _ => exact hf
  | predict _ _ _ => exact hf
  | fuse input => exact hf.congr ((GatedFilter.fuseActive_onlyFused _ _ input).lastFailure .gps)
  | adjust _ => exact hf

theorem failedSince_after (hf : f.arbiter.standing.health.FailedSince t)
    (steps : List (FlightStep α C)) : (f.after steps).arbiter.standing.health.FailedSince t :=
  after_keeps (P := fun g => g.arbiter.standing.health.FailedSince t) steps
    (fun _ k _ hg => failedSince_step hg k) hf

/-- A step that brings satellite navigation into use starts it, past the cooldown. -/
theorem inUse_step (hf : f.arbiter.standing.health.FailedSince t) (k : FlightStep α C)
    (hg : (f.step k).arbiter.standing.status.gps = true) :
    f.arbiter.standing.status.gps = true ∨ ∃ u, (u, .gpsStarted) ∈ f.eventsOf k ∧
      t + f.arbiter.settings.timeouts.gpsFailCooldown < u := by
  cases k with
  | update clock h =>
      rw [standing_update] at hg
      refine (inUse_settled (f.arbiter.context clock h) _ f.core hg).imp_right fun he => ?_
      refine ⟨clock.now, List.mem_map_of_mem ?_,
        (cooling_settled (f.arbiter.context clock h) f.core hf).started he⟩
      exact (mem_update_events .gps rfl).mpr he
  | setInAir _ => exact Or.inl hg
  | predict _ _ _ => exact Or.inl hg
  | fuse _ => exact Or.inl hg
  | adjust _ => exact Or.inl hg

/-- Satellite navigation in use after a run was in use before it or was started on the way, past
the cooldown. -/
theorem inUse_after : ∀ {f : Flight α C} (steps : List (FlightStep α C)),
    f.arbiter.standing.health.FailedSince t →
    (f.after steps).arbiter.standing.status.gps = true →
    f.arbiter.standing.status.gps = true ∨ ∃ u, (u, .gpsStarted) ∈ f.journal steps ∧
      t + f.arbiter.settings.timeouts.gpsFailCooldown < u
  | _, [], _, hg => Or.inl hg
  | f, k :: ks, hf, hg => by
      -- it was started after the first step, or was in use after it
      rcases inUse_after ks (failedSince_step hf k) hg with hg | ⟨u, hu, htu⟩
      · rcases inUse_step hf k hg with hg | ⟨u, hu, htu⟩
        · exact Or.inl hg
        · exact Or.inr ⟨u, List.mem_append_left _ hu, htu⟩
      · rw [settings_step] at htu
        exact Or.inr ⟨u, List.mem_append_right _ hu, htu⟩

/-- After a failed start of satellite navigation, whatever happens in between and whichever way the
clock goes: no cycle up to the end of the cooldown starts it or fails to, and one that asks for a
reset of position or velocity to it recovers what was in use, started in between at a time past the
cooldown. -/
theorem cooldown_respected (f : Flight α C) (clock clock' : Clock) (h h' : Histories α)
    (between : List (FlightStep α C)) :
    let cooldown := f.arbiter.settings.timeouts.gpsFailCooldown
    let rest := f.step (.update clock h)
    let later := (rest.after between).cycle clock' h'
    .gpsActivationFailed ∈ (f.cycle clock h).events → clock'.now ≤ clock.now + cooldown →
      .gpsStarted ∉ later.events ∧ .gpsActivationFailed ∉ later.events ∧
      ∀ r ∈ later.requests, r.resetsToGps = true →
        (rest.after between).arbiter.standing.status.gps = true ∧
        (.gpsResetToMeasurement ∈ later.events ∨ .gpsResetFailed ∈ later.events) ∧
        ∃ u, (u, .gpsStarted) ∈ rest.journal between ∧ clock.now + cooldown < u := by
  intro cooldown rest later he soon
  have he := (mem_update_events .gps rfl).mp he
  obtain ⟨hoff, hfailed⟩ := failed_settled (f.arbiter.context clock h) _ f.core he
  rw [← standing_update] at hfailed
  -- a start in the cycle of the failure would be a second event of satellite navigation
  have hout : rest.arbiter.standing.status.gps = false := by
    refine Bool.eq_false_iff.mpr fun hg => ?_
    rw [standing_update] at hg
    rcases inUse_settled (f.arbiter.context clock h) _ f.core hg with hg | hs
    · exact absurd (hoff.symm.trans hg) Bool.false_ne_true
    · cases gps_event_unique he hs rfl rfl
  have hset : (rest.after between).arbiter.settings = f.arbiter.settings :=
    (settings_after _ _).trans (settings_step f _)
  have cooling := cooling_settled ((rest.after between).arbiter.context clock' h')
    (rest.after between).core (failedSince_after hfailed between)
  have early : ¬clock.now + (rest.after between).arbiter.settings.timeouts.gpsFailCooldown <
      clock'.now := by
    rw [hset]
    exact Nat.not_lt.mpr soon
  refine ⟨fun hs => early (cooling.started ?_), fun hs => early (cooling.failedAgain ?_),
    fun r hr hg => ?_⟩
  · exact (mem_update_events .gps rfl).mp hs
  · exact (mem_update_events .gps rfl).mp hs
  · rw [requests_cycle] at hr
    obtain ⟨hb, hrecover⟩ := (cooling.reset r hr hg).resolve_left early
    refine ⟨hb, ?_, ?_⟩
    · exact hrecover.imp (mem_update_events .gps rfl).mpr
        (mem_update_events .gps rfl).mpr
    · have := (inUse_after between hfailed hb).resolve_left (Bool.eq_false_iff.mp hout)
      rwa [settings_step] at this

end Flight

/-! ## On a core that refuses a reset -/

/-- A vision sample at 9.9 s, and fixes at these times. -/
def seenWith (fixes : List Time) : Histories Float :=
  { noSamples with
    vision := historyOf [⟨9900000, .zero, .identity, 0.1, 0.1⟩]
    gps := fixesAt fixes }

/-- Just before its tenth second, a flight that took yaw over from vision, on a core that refuses
resets of position. -/
def refusing : Flight Float (Impaired Float (GatedFilter Float)) :=
  let settings : Settings Float := { Settings.default with allowed := { visionYaw := true } }
  Flight.after ⟨.ofSettings settings, { core := .levelled }⟩
    [.update ⟨9980000, 9880000⟩ (seenWith []), .update ⟨9990000, 9890000⟩ (seenWith []),
      .adjust fun c => { c with blocked := { position := true } }]

theorem refusing_fails : .gpsActivationFailed ∈
    (refusing.cycle ⟨10000000, 9900000⟩ (seenWith [800000, 9950000])).events :=
  Event.mem_of_name _ (fun _ => Event.eq_gpsActivationFailed) (by decide +kernel)

/-- The start is not tried again up to the end of the cooldown, although the core has stopped
refusing, and then it is. -/
theorem cooldown_respected_refusing :
    let failed : Clock := ⟨10000000, 9900000⟩
    let between : List (FlightStep Float (Impaired Float (GatedFilter Float))) :=
      [.adjust fun c => { c with blocked := {} }]
    let last : Clock := ⟨15000000, 14900000⟩
    let fixes := seenWith [800000, 9950000]
    let more := seenWith [800000, 9950000, 14950000]
    let rest := refusing.step (.update failed fixes)
    let later := (rest.after between).cycle last more
    .gpsActivationFailed ∈ (refusing.cycle failed fixes).events ∧
      last.now ≤ failed.now + refusing.arbiter.settings.timeouts.gpsFailCooldown ∧
      (.gpsStarted ∉ later.events ∧ .gpsActivationFailed ∉ later.events ∧
        ∀ r ∈ later.requests, r.resetsToGps = true →
          (rest.after between).arbiter.standing.status.gps = true ∧
          (.gpsResetToMeasurement ∈ later.events ∨ .gpsResetFailed ∈ later.events) ∧
          ∃ u, (u, .gpsStarted) ∈ rest.journal between ∧
            failed.now + refusing.arbiter.settings.timeouts.gpsFailCooldown < u) ∧
      .position .gps true ∈ ((rest.after between).cycle ⟨15000001, 14900001⟩ more).requests :=
  have soon : (15000000 : Nat) ≤ 10000000 +
      refusing.arbiter.settings.timeouts.gpsFailCooldown := by decide +kernel
  ⟨refusing_fails, soon,
    Flight.cooldown_respected refusing _ _ _ _ _ refusing_fails soon, by decide +kernel⟩

/-- Satellite navigation started six seconds after the failure, the clock was then set back to one
second, where fixes were fused last, and at two seconds after the failure it is reset to them. -/
theorem recovery_in_cooldown :
    let failed : Clock := ⟨10000000, 9900000⟩
    let last : Clock := ⟨12000000, 11900000⟩
    let fixes := seenWith [800000, 9950000]
    let more := seenWith [800000, 9950000, 15950000]
    let started := (refusing.step (.update failed fixes)).after
      [.adjust fun c => { c with blocked := {} }, .update ⟨16000000, 15900000⟩ more]
    let fused := started.step (.fuse ⟨started.arbiter.standing.status, more, 900000, 1000000⟩)
    .gpsActivationFailed ∈ (refusing.cycle failed fixes).events ∧
      last.now ≤ failed.now + refusing.arbiter.settings.timeouts.gpsFailCooldown ∧
      .position .gps true ∈ (fused.cycle last more).requests ∧
      .velocity .gps true ∈ (fused.cycle last more).requests :=
  ⟨refusing_fails, by decide +kernel, by decide +kernel, by decide +kernel⟩

end NavArbiter

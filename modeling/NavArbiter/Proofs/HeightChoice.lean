/-
# Which source height is reset to

When height is uncertain and was not corrected for too long, it is reset to the source that
`Height.choose` names, a table over ten facts.  Here the table is read against what the facts are
taken from: histories, settings, fault marks, clocks and core.  A source is usable if its newest
sample is younger than two of its intervals and, for satellite navigation and range, yaw was aligned
before the cycle.

    active      while it is usable, height leaves it for         else for
    barometer   usable satellite heights, which are accurate     usable satellite heights
                and unmarked, if no inertial fault was
                suspected lately
    satellite   a usable barometer, which is unmarked and        a usable barometer
                inside the gate, if satellite heights are
                not accurate
    range       -                                                a usable barometer
    vision      -                                                a usable barometer

If height can neither stay nor leave, the reset is denied.

An inertial fault that is suspected in the same call is noted before the facts are taken, so the
clock that they read is not the one that the call began with (`suspectedLately_iff`).

The two intervals are counted as a clock counts them.  An interval whose double is no time is in
range as well, and under it a source that delivers need not be usable
(`height_timeout_choice_endless`).
-/
import NavArbiter.Proofs.RecentResets

namespace NavArbiter

/-! ## The table -/

section Table

variable {f : Height.Facts}

theorem choose_gps_iff (active : f.active = .baro) (usable : f.fresh .baro = true) :
    Height.choose f = some .gps ↔ f.fresh .gps = true ∧ f.gpsAccurate = true ∧
      f.gpsFaulty = false ∧ f.recentInertialFault = false := by
  unfold Height.Facts.fresh at *
  unfold Height.choose
  rw [active]
  grind

theorem choose_baro_iff (active : f.active = .gps) (usable : f.fresh .gps = true) :
    Height.choose f = some .baro ↔ f.fresh .baro = true ∧ f.baroFaulty = false ∧
      f.baroConsistent = true ∧ f.gpsAccurate = false := by
  unfold Height.Facts.fresh at *
  unfold Height.choose
  rw [active]
  grind

/-- Range and vision are left for the barometer, and only if they are stale. -/
theorem choose_of_proximity (active : f.active = .range ∨ f.active = .vision)
    {target : HeightSource} (other : target ≠ f.active) : Height.choose f = some target ↔
      target = .baro ∧ f.fresh .baro = true ∧ ¬ f.fresh f.active = true := by
  unfold Height.Facts.fresh at *
  unfold Height.choose
  rcases active with active | active <;> rw [active] at other ⊢ <;> grind

theorem choose_eq_none_iff : Height.choose f = none ↔ ¬ f.fresh f.active = true ∧
    ¬ f.fresh .baro = true ∧ (f.active = .baro → ¬ f.fresh .gps = true) := by
  unfold Height.Facts.fresh
  unfold Height.choose
  cases f.active <;> grind

theorem targets_of_choose {target : HeightSource} (h : Height.choose f = some target) :
    target = f.active ∨ target = .baro ∨ f.active = .baro ∧ target = .gps := by
  unfold Height.choose at h
  split at h <;> grind

end Table

/-! ## What the facts are taken from -/

variable {α : Type}

/-- The newest sample of a height source is fresh, and yaw is aligned if the source needs that. -/
def Context.Usable (x : Context α) (source : HeightSource) : Prop :=
  x.FreshHeight source ∧ (source = .gps ∨ source = .range → x.before.yawAligned = true)

variable {C : Type} [Scalar α] [Estimator α C]

/-- The newest fix reports a vertical accuracy below the required one. -/
def Context.GpsAccurate (x : Context α) : Prop :=
  ∃ g, x.histories.gps.newest? = some g ∧
    g.verticalAccuracy < x.settings.requiredVerticalAccuracy

/-- The newest barometric height lies inside the gate around the estimate. -/
def Context.BaroInGate (x : Context α) (c : C) : Prop :=
  ∃ b, x.histories.baro.newest? = some b ∧
    Scalar.abs ((Estimator.nav c).position.z -
        (Estimator.heightOffset c - b.height + Estimator.baroOffset c)) <
      (x.settings.baroNoise * x.settings.baroNoise + Estimator.variance c .posDown) *
        (x.settings.baroGate * x.settings.baroGate)

namespace Height

variable (x : Context α) (s : Standing α) (c : C)

/-- Height is uncertain and was not corrected for too long. -/
def Due : Prop :=
  ¬ Estimator.variance c .posDown ≤ x.settings.heightResetLimit * x.settings.heightResetLimit ∧
    x.settings.timeouts.heightFusionTimeout < s.health.since .height x.clock.now

/-- An inertial fault was suspected lately: before the call, or in it, which makes it zero old. -/
def SuspectedLately : Prop :=
  s.health.since .inertialFault x.clock.now < x.settings.timeouts.inertialFaultMemory ∨
    .inertialFaultSuspected ∈ (control x s c).events ∧
      0 < x.settings.timeouts.inertialFaultMemory

/-- A reset of height to a source is asked for. -/
def Picks (target : HeightSource) : Prop :=
  ∃ granted, .height target granted ∈ (control x s c).requests

end Height

section Facts

variable {x : Context α} {s : Standing α} {c : C}

theorem fresh_facts_iff {source : HeightSource} :
    (Height.facts x s c).fresh source = true ↔ x.Usable source := by
  unfold Context.Usable
  rw [← sourceFresh_iff]
  cases source with
  | baro | vision => simp [Height.Facts.fresh, Height.facts]
  | gps => simp [Height.Facts.fresh, Height.facts]
  | range => simp [Height.Facts.fresh, Height.facts, and_comm]

theorem gpsAccurate_iff : Height.gpsAccurate x = true ↔ x.GpsAccurate := by
  unfold Height.gpsAccurate Context.GpsAccurate
  cases x.histories.gps.newest? <;> simp

theorem baroConsistent_iff : Height.baroConsistent x c = true ↔ x.BaroInGate c := by
  unfold Height.baroConsistent Context.BaroInGate
  cases x.histories.baro.newest? <;> simp

theorem timedOut_iff : Height.timedOut x s c = true ↔ Height.Due x s c := by
  unfold Height.timedOut Height.Due
  simp only [Bool.and_eq_true, Bool.not_eq_true', decide_eq_false_iff_not, decide_eq_true_eq]
  exact Iff.rfl

end Facts

/-! ## The call -/

section Call

variable (x : Context α) (s : Standing α) (c : C)

/-- The standing once a suspected inertial fault was noted. -/
def Height.noted : Standing α := (Height.watchInertial x s c).standing

/-- A suspicion is announced and touches one clock. -/
theorem noted_cases : ((Height.watchInertial x s c).events = [] ∧
      (Height.noted x s c).health = s.health) ∨
    ((Height.watchInertial x s c).events = [.inertialFaultSuspected] ∧
      (Height.noted x s c).health = s.health.setClock .inertialFault (some x.clock.now)) := by
  unfold Height.noted Height.watchInertial
  split
  · exact Or.inr ⟨rfl, rfl⟩
  · exact Or.inl ⟨rfl, rfl⟩

/-- What does not look at that clock stays. -/
theorem noted_keeps {β : Type} (read : Health → β)
    (h : ∀ t, read (s.health.setClock .inertialFault t) = read s.health) :
    read (Height.noted x s c).health = read s.health := by
  rcases noted_cases x s c with ⟨-, noted⟩ | ⟨-, noted⟩
  · rw [noted]
  · rw [noted, h]

theorem noted_isFaulty (k : Sensor) :
    (Height.noted x s c).health.isFaulty k = s.health.isFaulty k :=
  noted_keeps x s c (·.isFaulty k) fun _ => rfl

theorem noted_lastHeight : (Height.noted x s c).health.lastHeight = s.health.lastHeight :=
  noted_keeps x s c Health.lastHeight fun _ => rfl

theorem due_noted_iff : Height.Due x (Height.noted x s c) c ↔ Height.Due x s c := by
  rw [Height.Due, Height.Due, Health.since, Health.since, Health.clock, Health.clock,
    noted_lastHeight]

theorem watchInertial_core : (Height.watchInertial x s c).core = c := by
  unfold Height.watchInertial
  split <;> rfl

theorem watchInertial_requests : (Height.watchInertial x s c).requests = [] := by
  unfold Height.watchInertial
  split <;> rfl

omit [Scalar α] [Estimator α C] in
theorem selectPreferred_frame : let p := Height.selectPreferred x s c
    p.core = c ∧ p.requests = [] ∧ p.standing.health = s.health := by
  unfold Height.selectPreferred
  dsimp only
  split <;> exact ⟨rfl, rfl, rfl⟩

omit [Scalar α] in
theorem noteGround_frame : let g := Height.noteGround x s c
    g = .unchanged g.standing c ∧ g.standing.status = s.status ∧ g.standing.health = s.health := by
  unfold Height.noteGround
  split <;> exact ⟨rfl, rfl, rfl⟩

/-- The watch over timeouts as it runs in a call. -/
def Height.watched : Outcome α C := watchTimeout x (noted x s c) c

/-- A call is the watch over timeouts between a suspicion before it, and the preferred source and
the ground after it, which ask the core for nothing. -/
theorem height_eq : let w : Outcome α C := Height.watched x s c
    let p := Height.selectPreferred x w.standing w.core
    Height.control x s c = ⟨(Height.noteGround x p.standing w.core).standing, w.core,
      (Height.watchInertial x s c).events ++ w.events ++ p.events, w.requests⟩ := by
  intro w p
  obtain ⟨core, requests, -⟩ := selectPreferred_frame x w.standing w.core
  have watched : (Height.watchInertial x s c).andThen (Height.watchTimeout x) = ⟨w.standing, w.core,
      (Height.watchInertial x s c).events ++ w.events, w.requests⟩ := by
    rw [Outcome.andThen, watchInertial_requests, watchInertial_core]
    rfl
  unfold Height.control
  rw [watched]
  show (Outcome.mk p.standing p.core _ (w.requests ++ p.requests)).andThen (Height.noteGround x) = _
  rw [core, requests, Outcome.andThen, (noteGround_frame x p.standing w.core).1]
  simp only [Outcome.unchanged, List.append_nil]
  rfl

/-- Requests, core and health are those that the watch over timeouts leaves. -/
theorem height_left : let o := Height.control x s c
    let watched : Outcome α C := Height.watchTimeout x (Height.noted x s c) c
    o.requests = watched.requests ∧ o.core = watched.core ∧
      o.standing.health = watched.standing.health := by
  rw [height_eq]
  exact ⟨rfl, rfl, (noteGround_frame x _ _).2.2.trans (selectPreferred_frame x _ _).2.2⟩

theorem suspected_iff : .inertialFaultSuspected ∈ (Height.control x s c).events ↔
    (Height.watchInertial x s c).events = [.inertialFaultSuspected] := by
  obtain ⟨last, events, hlast⟩ := height_events_eq x s c
  have timeout (s : Standing α) (c : C) :
      .inertialFaultSuspected ∉ (Height.watchTimeout x s c).events := by
    rcases watchTimeout_events x s c with h | ⟨e, h, rfl | ⟨target, rfl | rfl⟩⟩ <;> simp [h]
  have selected : .inertialFaultSuspected ∉ last := fun h =>
    Event.forall_of_at_most (P := (· ≠ .inertialFaultSuspected)) hlast nofun _ h rfl
  rw [events, List.mem_append, List.mem_append, or_iff_left selected, or_iff_left (timeout _ _)]
  rcases watchInertial_events x s c with h | h <;> simp [h]

/-- What neither of its neighbours announces, the watch over timeouts does. -/
theorem mem_height_events {e : Event α} (suspected : e ≠ .inertialFaultSuspected)
    (selected : e ≠ .heightSourceSelected x.settings.preferredHeight) :
    e ∈ (Height.control x s c).events ↔
      e ∈ (Height.watchTimeout x (Height.noted x s c) c : Outcome α C).events := by
  obtain ⟨last, events, hlast⟩ := height_events_eq x s c
  rw [events, watchInertial_core, List.mem_append, List.mem_append]
  refine ⟨?_, fun h => Or.inl (Or.inr h)⟩
  rintro ((h | h) | h)
  · exact absurd rfl (Event.forall_of_at_most (P := fun e' => e ≠ e')
      (watchInertial_events x s c) suspected e h)
  · exact h
  · exact absurd rfl (Event.forall_of_at_most (P := fun e' => e ≠ e') hlast selected e h)

/-- The clock of inertial faults that the facts are taken from. -/
theorem suspectedLately_iff : Height.SuspectedLately x s c ↔
    (Height.facts x (Height.noted x s c) c).recentInertialFault = true := by
  unfold Height.SuspectedLately Height.facts Health.since
  rw [suspected_iff, decide_eq_true_eq]
  rcases noted_cases x s c with ⟨events, h⟩ | ⟨events, h⟩
  · simp [events, h]
  · simp only [events, h, Health.clock, Health.setClock, Time.ageOf_some, Nat.sub_self, true_and]
    omega

variable {x s c}

/-- A denial asks for nothing. -/
theorem denied_of_choose (due : Height.Due x s c)
    (none : Height.choose (Height.facts x s c) = .none) :
    (Height.watchTimeout x s c : Outcome α C).events = [.heightResetDenied x.before.height] ∧
      (Height.watchTimeout x s c : Outcome α C).requests = [] := by
  unfold Height.watchTimeout
  rw [if_pos (timedOut_iff.mpr due), none]
  exact ⟨rfl, rfl⟩

/-- A choice is asked for, and what is announced tells whether the core granted it. -/
theorem asked_of_choose (due : Height.Due x s c) {target : HeightSource}
    (chosen : Height.choose (Height.facts x s c) = some target) :
    ∃ granted, (Height.watchTimeout x s c : Outcome α C).requests = [.height target granted] ∧
      (Height.watchTimeout x s c : Outcome α C).events =
        [if granted then .heightReset x.before.height target
          else .heightResetFailed x.before.height target] := by
  unfold Height.watchTimeout
  rw [if_pos (timedOut_iff.mpr due), chosen]
  refine ⟨(Estimator.askHeight c target x.histories).granted, ?_, ?_⟩ <;>
  · simp only [Height.resetTo]
    split <;> rfl

/-- The table on the facts of a call. -/
def Height.choice (x : Context α) (s : Standing α) (c : C) : Option HeightSource :=
  Height.choose (Height.facts x (Height.noted x s c) c)

/-- A call on a height that timed out is a denial, or asks for what the table names. -/
theorem call_of_due (due : Height.Due x s c) :
    let o := Height.control x s c
    Height.choice x s c = none ∧ o.requests = [] ∧
        .heightResetDenied x.before.height ∈ o.events ∨
      ∃ target granted, Height.choice x s c = some target ∧
        o.requests = [.height target granted] ∧
        .heightResetDenied x.before.height ∉ o.events ∧
        (if granted then .heightReset x.before.height target
          else .heightResetFailed x.before.height target) ∈ o.events := by
  intro o
  have due' := (due_noted_iff x s c).mpr due
  have denial := mem_height_events x s c (e := .heightResetDenied x.before.height) nofun nofun
  rw [Height.choice, (height_left x s c).1, denial]
  cases chosen : Height.choose (Height.facts x (Height.noted x s c) c) with
  | none =>
      obtain ⟨events, requests⟩ := denied_of_choose due' chosen
      exact Or.inl ⟨rfl, requests, events ▸ List.mem_singleton_self _⟩
  | some target =>
      obtain ⟨granted, requests, events⟩ := asked_of_choose due' chosen
      refine Or.inr ⟨target, granted, rfl, requests, ?_, ?_⟩
      · rw [events, List.mem_singleton]
        cases granted <;> nofun
      · rw [mem_height_events x s c (by cases granted <;> nofun) (by cases granted <;> nofun),
          events]
        exact List.mem_singleton_self _

theorem picks_iff (due : Height.Due x s c) {target : HeightSource} :
    Height.Picks x s c target ↔ Height.choice x s c = some target := by
  rw [Height.Picks]
  rcases call_of_due due with ⟨chosen, requests, -⟩ | ⟨picked, granted, chosen, requests, -⟩
  · simp [chosen, requests]
  · simp [chosen, requests, eq_comm]

theorem denied_iff (due : Height.Due x s c) :
    .heightResetDenied x.before.height ∈ (Height.control x s c).events ↔
      Height.choice x s c = none := by
  rcases call_of_due due with ⟨chosen, -, denied⟩ | ⟨picked, granted, chosen, -, denied, -⟩
  · simp [chosen, denied]
  · simp [chosen, denied]

/-- Nothing happens to a height that did not time out. -/
theorem watchTimeout_of_not_due (due : ¬ Height.Due x s c) :
    Height.watchTimeout x s c = .unchanged s c := by
  unfold Height.watchTimeout
  rw [if_neg (mt timedOut_iff.mp due)]

end Call

/-- How a height that timed out is dealt with. -/
structure Height.Answered (x : Context α) (s : Standing α) (c : C) : Prop where
  /-- Only a usable source is picked. -/
  usable : ∀ k, Picks x s c k → x.Usable k
  /-- Height stays with its source or goes to the barometer, or from there to satellite
  navigation. -/
  targets : ∀ k, Picks x s c k →
    k = x.before.height ∨ k = .baro ∨ x.before.height = .baro ∧ k = .gps
  /-- A usable barometer is left for accurate fixes, unless the accelerometers are in doubt. -/
  leavesBaro : x.before.height = .baro → x.Usable .baro →
    (Picks x s c .gps ↔ x.Usable .gps ∧ x.GpsAccurate ∧ s.health.isFaulty .gps = false ∧
      ¬ SuspectedLately x s c)
  /-- Usable fixes are left for a barometer that agrees with the estimate, if they are not accurate
  themselves. -/
  leavesGps : x.before.height = .gps → x.Usable .gps →
    (Picks x s c .baro ↔ x.Usable .baro ∧ s.health.isFaulty .baro = false ∧ x.BaroInGate c ∧
      ¬ x.GpsAccurate)
  /-- Range and vision are left for the barometer alone, and not before they fail. -/
  leavesProximity : x.before.height = .range ∨ x.before.height = .vision →
    ∀ k ≠ x.before.height,
      (Picks x s c k ↔ k = .baro ∧ x.Usable .baro ∧ ¬ x.Usable x.before.height)
  /-- There is neither a way to stay nor a way out. -/
  denied : .heightResetDenied x.before.height ∈ (control x s c).events ↔
    ¬ x.Usable x.before.height ∧ ¬ x.Usable .baro ∧ (x.before.height = .baro → ¬ x.Usable .gps)
  /-- What is not denied is asked for once, and the core's answer is announced. -/
  announced : .heightResetDenied x.before.height ∈ (control x s c).events ∧
      (control x s c).requests = [] ∨
    .heightResetDenied x.before.height ∉ (control x s c).events ∧ ∃ k granted,
      (control x s c).requests = [.height k granted] ∧
      (if granted then .heightReset x.before.height k
        else .heightResetFailed x.before.height k) ∈ (control x s c).events

theorem answered_of_due {x : Context α} {s : Standing α} {c : C} (due : Height.Due x s c) :
    Height.Answered x s c where
  usable k picked := fresh_facts_iff.mp (fresh_of_choose ((picks_iff due).mp picked))
  targets k picked := targets_of_choose ((picks_iff due).mp picked)
  leavesBaro active usable := by
    rw [picks_iff due, suspectedLately_iff, Bool.not_eq_true, ← gpsAccurate_iff,
      ← fresh_facts_iff (c := c), ← noted_isFaulty x s c .gps]
    exact choose_gps_iff active (fresh_facts_iff.mpr usable)
  leavesGps active usable := by
    rw [picks_iff due, ← gpsAccurate_iff, Bool.not_eq_true, ← baroConsistent_iff,
      ← fresh_facts_iff (c := c), ← noted_isFaulty x s c .baro]
    exact choose_baro_iff active (fresh_facts_iff.mpr usable)
  leavesProximity active k other := by
    rw [picks_iff due, ← fresh_facts_iff (c := c), ← fresh_facts_iff (c := c)]
    exact choose_of_proximity active other
  denied := by
    rw [denied_iff due]
    simp only [← fresh_facts_iff (s := Height.noted x s c) (c := c)]
    exact choose_eq_none_iff
  announced := (call_of_due due).imp (fun ⟨_, requests, denied⟩ => ⟨denied, requests⟩)
    fun ⟨target, granted, _, requests, denied, announced⟩ =>
      ⟨denied, target, granted, requests, announced⟩

end NavArbiter

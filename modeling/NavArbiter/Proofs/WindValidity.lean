/-
# When the wind estimate is valid

Wind counts as valid while the last fusion of airspeed lies within its timeout.  The magnetometer
controller decides this at the end of every cycle in which vision does not observe yaw, and nobody
else does:

    yaw observed by     at the end of the cycle
    magnetometer        valid if and only if airspeed was fused within the timeout
    vision              as before the cycle

So a wind that is valid goes back to the last cycle that decided it, and there airspeed had been
fused within the timeout (`wind_grounded`).  Since then vision observed yaw throughout, and however
long that lasted, the wind was neither confirmed nor withdrawn (`wind_outlasts_airspeed`).
-/
import NavArbiter.Proofs.Latches
import NavArbiter.Proofs.Ownership

namespace NavArbiter

variable {α C : Type} [Scalar α] [Estimator α C]

/-! ## Who decides it -/

section Stages

variable (x : Context α) (s : Standing α) (c : C)

/-- The other stages do not own it. -/
theorem wind_run {g : Stage} (hg : g ≠ .mag) :
    (g.run x s c).standing.status.windValid = s.status.windValid := by
  have other : Cell.windValid ∉ g.owned := by
    cases g with
    | mag => exact absurd rfl hg
    | _ => decide
  exact run_owned x s c g .windValid other

/-- The magnetometer controller decides the wind, unless vision observes yaw. -/
theorem wind_settle :
    let t := (Mag.settle x s c).standing
    (t.status.visionYaw = true → t.status.windValid = s.status.windValid) ∧
    (t.status.visionYaw = false → t.status.windValid = decide
      ((t.health.sensor .airspeed).sinceFusion x.clock.now ≤
        x.settings.timeouts.airspeedTimeout)) := by
  unfold Mag.settle
  split
  · next hv => exact ⟨fun _ => rfl, fun h => nomatch hv.symm.trans h⟩
  · next hv =>
    let mode := Mag.target x s c
    have entered : (Mag.enter x mode s c).standing.status.visionYaw = false :=
      (enter_owned x s c mode .visionYaw (by decide)).trans (Bool.eq_false_iff.mpr hv)
    refine ⟨fun h => ?_, fun _ => rfl⟩
    have observed := decideStatus_yaw x mode entered
    change (Mag.decideStatus x mode (Mag.enter x mode s c).standing).visionYaw = true at h
    rw [Status.visionYaw, observed] at h
    cases h

end Stages

theorem wind_settled (x : Context α) (s : Standing α) (c : C) :
    let t := (Arbiter.settled x s c).standing
    (t.status.visionYaw = true → t.status.windValid = s.status.windValid) ∧
    (t.status.visionYaw = false → t.status.windValid = decide
      ((t.health.sensor .airspeed).sinceFusion x.clock.now ≤
        x.settings.timeouts.airspeedTimeout)) := by
  let found := Stage.mag.upTo x s c
  have kept : found.standing.status.windValid = s.status.windValid :=
    upTo_keeps (P := fun t => t.status.windValid = s.status.windValid) c .mag
      (fun _ hk s' c' h => (wind_run x s' c' hk).trans h) rfl
  obtain ⟨vision, magnetometer⟩ := wind_settle x found.standing found.core
  exact ⟨fun h => (vision h).trans kept, magnetometer⟩

/-! ## What a valid wind goes back to -/

omit [Scalar α] in
theorem SensorHealth.sinceFusion_le_iff {h : SensorHealth} {now : Time} {limit : Nat}
    (limited : limit < Time.infiniteAge) : h.sinceFusion now ≤ limit ↔
      ∃ fused, h.lastFusion = some fused ∧ Time.age now fused ≤ limit := by
  unfold SensorHealth.sinceFusion
  cases h.lastFusion with
  | none => simp [limited]
  | some t => simp [Time.age]

/-- What a cycle leaves, with the time of the cycle. -/
structure CycleEnd (α : Type) where
  now : Time
  standing : Standing α

/-- Vision observes yaw at the end of the cycle. -/
def CycleEnd.visionYaw (m : CycleEnd α) : Bool := m.standing.status.visionYaw

/-- Airspeed was fused, and no longer than `limit` before the cycle. -/
def CycleEnd.AirspeedWithin (m : CycleEnd α) (limit : Nat) : Prop :=
  ∃ fused, (m.standing.health.sensor .airspeed).lastFusion = some fused ∧
    Time.age m.now fused ≤ limit

namespace Arbiter

/-- What a cycle of the arbiter leaves. -/
def cycleEnd (a : Arbiter α) (clock : Clock) (samples : Histories α) (c : C) : CycleEnd α :=
  ⟨clock.now, (a.update clock samples c).arbiter.standing⟩

/-- What the cycles of a run leave, in their order. -/
def cycleEnds (a : Arbiter α) : List (Call α C) → List (CycleEnd α)
  | [] => []
  | .update clock samples c :: ks =>
      a.cycleEnd clock samples c :: (a.update clock samples c).arbiter.cycleEnds ks
  | .setInAir inAir :: ks => (a.setInAir inAir).cycleEnds ks
  | .writeHealth h :: ks => (a.writeHealth h).cycleEnds ks

end Arbiter

/-- Of these cycles the last one without vision on yaw found airspeed fused within the limit. -/
def WindGrounded (limit : Nat) (ends : List (CycleEnd α)) : Prop :=
  ∃ earlier m later, ends = earlier ++ m :: later ∧ m.visionYaw = false ∧
    m.AirspeedWithin limit ∧ ∀ l ∈ later, l.visionYaw = true

namespace WindGrounded

variable {limit : Nat} {ends : List (CycleEnd α)} {m : CycleEnd α}

omit [Scalar α] in
theorem decided (hv : m.visionYaw = false) (h : m.AirspeedWithin limit) :
    WindGrounded limit (ends ++ [m]) :=
  ⟨ends, m, [], rfl, hv, h, List.forall_mem_nil _⟩

omit [Scalar α] in
theorem suspended (h : WindGrounded limit ends) (hv : m.visionYaw = true) :
    WindGrounded limit (ends ++ [m]) := by
  obtain ⟨earlier, l, later, rfl, hl, within, vision⟩ := h
  refine ⟨earlier, l, later ++ [m], by simp, hl, within, fun k hk => ?_⟩
  rcases List.mem_append.mp hk with hk | hk
  · exact vision k hk
  · rw [List.mem_singleton.mp hk]
    exact hv

end WindGrounded

section Cycle

variable {a : Arbiter α} {limit : Nat} (clock : Clock) (samples : Histories α) (c : C)

/-- While vision observes yaw, the wind is as it was. -/
theorem wind_suspended (hv : (a.cycleEnd clock samples c).visionYaw = true) :
    (a.cycleEnd clock samples c).standing.status.windValid = a.standing.status.windValid := by
  rw [Arbiter.cycleEnd, Arbiter.update_eq] at hv ⊢
  exact (wind_settled (a.context clock samples) a.standing c).1 hv

/-- Otherwise it is valid if and only if airspeed was fused within the limit. -/
theorem wind_decided (hlimit : a.settings.timeouts.airspeedTimeout = limit)
    (limited : limit < Time.infiniteAge)
    (hv : (a.cycleEnd clock samples c).visionYaw = false) :
    (a.cycleEnd clock samples c).standing.status.windValid = true ↔
      (a.cycleEnd clock samples c).AirspeedWithin limit := by
  rw [Arbiter.cycleEnd, Arbiter.update_eq] at hv ⊢
  have decided := (wind_settled (a.context clock samples) a.standing c).2 hv
  refine (iff_of_eq (congrArg (· = true) decided)).trans (decide_eq_true_iff.trans ?_)
  rw [← hlimit] at limited ⊢
  exact SensorHealth.sinceFusion_le_iff limited

/-- A cycle hands the grounds of a valid wind on, or finds new ones. -/
theorem windGrounded_update {past : List (CycleEnd α)}
    (hlimit : a.settings.timeouts.airspeedTimeout = limit) (limited : limit < Time.infiniteAge)
    (before : a.standing.status.windValid = true → WindGrounded limit past)
    (valid : (a.cycleEnd clock samples c).standing.status.windValid = true) :
    WindGrounded limit (past ++ [a.cycleEnd clock samples c]) := by
  cases hv : (a.cycleEnd clock samples c).visionYaw with
  | true => exact (before ((wind_suspended clock samples c hv).symm.trans valid)).suspended hv
  | false => exact .decided hv ((wind_decided clock samples c hlimit limited hv).mp valid)

end Cycle

/-- Over a run, a valid wind keeps its grounds in the cycles so far. -/
theorem windGrounded_after {limit : Nat} (limited : limit < Time.infiniteAge) :
    ∀ {a : Arbiter α} (past : List (CycleEnd α)) (calls : List (Call α C)),
      a.settings.timeouts.airspeedTimeout = limit →
      (a.standing.status.windValid = true → WindGrounded limit past) →
      (a.after calls).standing.status.windValid = true →
        WindGrounded limit (past ++ a.cycleEnds calls)
  | a, past, [], _, before, valid => by
      rw [Arbiter.cycleEnds, List.append_nil]
      exact before valid
  | a, past, .update clock samples c :: ks, hlimit, before, valid => by
      have step := windGrounded_update clock samples c hlimit limited before
      have rest := windGrounded_after limited (a := (a.update clock samples c).arbiter)
        (past ++ [a.cycleEnd clock samples c]) ks hlimit step valid
      rw [List.append_assoc] at rest
      exact rest
  | a, past, .setInAir inAir :: ks, hlimit, before, valid =>
      windGrounded_after limited (a := a.setInAir inAir) past ks hlimit before valid
  | a, past, .writeHealth h :: ks, hlimit, before, valid =>
      windGrounded_after limited (a := a.writeHealth h) past ks hlimit before valid

/-- After every cycle of every run of a new arbiter with a finite timeout of airspeed: while vision
does not observe yaw, the wind is valid if and only if airspeed was fused within the timeout.  While
vision does, the wind is as it was before the cycle; and if it is valid, then airspeed was fused
within the timeout at the last cycle that ended without vision on yaw. -/
theorem wind_grounded {settings : Settings α} {a : Arbiter α} (h : Arbiter.new settings = .ok a)
    (limited : settings.timeouts.airspeedTimeout < Time.infiniteAge) (calls : List (Call α C))
    (clock : Clock) (samples : Histories α) (c : C) :
    let limit := settings.timeouts.airspeedTimeout
    let b := a.after calls
    let m := b.cycleEnd clock samples c
    (m.visionYaw = false → (m.standing.status.windValid = true ↔ m.AirspeedWithin limit)) ∧
    (m.visionYaw = true → m.standing.status.windValid = b.standing.status.windValid ∧
      (m.standing.status.windValid = true → WindGrounded limit (a.cycleEnds calls))) := by
  intro limit b m
  have new : a = Arbiter.ofSettings settings := Arbiter.eq_ofSettings_of_new h
  have hlimit : a.settings.timeouts.airspeedTimeout = limit := by rw [new]; rfl
  have hb : b.settings.timeouts.airspeedTimeout = limit := by
    rw [settings_after a calls]
    exact hlimit
  have unset : a.standing.status.windValid = false := by rw [new]; rfl
  refine ⟨wind_decided clock samples c hb limited, fun hv => ?_⟩
  have kept := wind_suspended clock samples c hv
  refine ⟨kept, fun valid => ?_⟩
  exact windGrounded_after limited [] calls hlimit
    (fun before => nomatch unset.symm.trans before) (kept.symm.trans valid)

/-- Airspeed is fused, a cycle finds the wind valid, and vision takes yaw over in the next. -/
def windBeforeVision : List (Call Float (GatedFilter Float)) :=
  [.writeHealth (Health.initial.recordFusion .airspeed 900000),
    .update ⟨1000000, 900000⟩ poseAndField .levelled,
    .update ⟨1010000, 910000⟩ poseAndField .levelled]

/-- An hour on, the wind is still valid, and has its grounds in the first of the two cycles. -/
theorem wind_grounded_visionYaw :
    let a : Arbiter Float := .ofSettings visionAided
    let m := (a.after windBeforeVision).cycleEnd ⟨3600000000, 3599900000⟩ poseAndField
      (GatedFilter.levelled : GatedFilter Float)
    Arbiter.new visionAided = .ok a ∧ visionAided.timeouts.airspeedTimeout < Time.infiniteAge ∧
      m.visionYaw = true ∧ m.standing.status.windValid = true ∧
      WindGrounded visionAided.timeouts.airspeedTimeout (a.cycleEnds windBeforeVision) := by
  intro a m
  have accepted : Arbiter.new visionAided = .ok a := rfl
  have limited : visionAided.timeouts.airspeedTimeout < Time.infiniteAge := by decide
  obtain ⟨-, suspended⟩ := wind_grounded accepted limited windBeforeVision
    ⟨3600000000, 3599900000⟩ poseAndField (GatedFilter.levelled : GatedFilter Float)
  have observed : m.visionYaw = true := by decide +kernel
  have valid : m.standing.status.windValid = true := by decide +kernel
  exact ⟨accepted, limited, observed, valid, (suspended observed).2 valid⟩

/-- There airspeed had been fused long before the timeout. -/
theorem wind_outlasts_airspeed :
    let a : Arbiter Float := .ofSettings visionAided
    let m := (a.after windBeforeVision).cycleEnd ⟨3600000000, 3599900000⟩ poseAndField
      (GatedFilter.levelled : GatedFilter Float)
    Arbiter.new visionAided = .ok a ∧ visionAided.timeouts.airspeedTimeout < Time.infiniteAge ∧
      m.standing.status.windValid = true ∧
      ¬ m.AirspeedWithin visionAided.timeouts.airspeedTimeout := by
  intro a m
  have valid : m.standing.status.windValid = true := by decide +kernel
  have last : (m.standing.health.sensor .airspeed).lastFusion = some 900000 := by decide +kernel
  refine ⟨rfl, by decide, valid, ?_⟩
  rintro ⟨fused, hf, within⟩
  cases hf.symm.trans last
  exact absurd within (by decide)

end NavArbiter

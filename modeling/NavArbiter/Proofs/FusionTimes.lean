/-
# Times in the health record

The health record is written in cycles and by fusions, and whatever is written there as a time is
the time of the writing.  So the clocks of a flight whose times never decrease never run back.

`Health.Advanced` says this of one writing, and is all that is known of a cycle.  A fusion does
less: it notes nothing of a sensor but that it was fused, and leaves failures and fault marks as
they are (`Health.OnlyFused`).
-/
import NavArbiter.Proofs.Decision
import NavArbiter.Proofs.Flight

namespace NavArbiter

namespace Health

@[simp] theorem sensor_setClock (h : Health) (k : FusionClock) (t : Option Time) (s : Sensor) :
    (h.setClock k t).sensor s = h.sensor s := by
  cases k <;> rfl

theorem clock_setClock (h : Health) (k l : FusionClock) (t : Option Time) :
    (h.setClock k t).clock l = if k = l then t else h.clock l := by
  cases k <;> cases l <;> rfl

@[simp] theorem clock_modifySensor (h : Health) (s : Sensor) (f : SensorHealth → SensorHealth)
    (k : FusionClock) : (h.modifySensor s f).clock k = h.clock k := by
  cases k <;> rfl

/-- Fusion times and clocks are as they were, or set to `now`. -/
structure Advanced (now : Time) (h h' : Health) : Prop where
  fusion : ∀ s, (h'.sensor s).lastFusion = (h.sensor s).lastFusion ∨
    (h'.sensor s).lastFusion = some now
  clock : ∀ k, h'.clock k = h.clock k ∨ h'.clock k = some now

namespace Advanced

variable {now : Time} {h h' h'' : Health}

theorem refl (now : Time) (h : Health) : Advanced now h h :=
  ⟨fun _ => Or.inl rfl, fun _ => Or.inl rfl⟩

theorem trans (a : Advanced now h h') (b : Advanced now h' h'') : Advanced now h h'' where
  fusion s := by
    rcases b.fusion s with hb | hb
    · rw [hb]
      exact a.fusion s
    · exact Or.inr hb
  clock k := by
    rcases b.clock k with hb | hb
    · rw [hb]
      exact a.clock k
    · exact Or.inr hb

theorem setClock (h : Health) (k : FusionClock) : Advanced now h (h.setClock k (some now)) where
  fusion s := Or.inl (by rw [sensor_setClock])
  clock l := by
    rw [clock_setClock]
    split
    · exact Or.inr rfl
    · exact Or.inl rfl

/-- Whatever else is rewritten of a sensor. -/
theorem modifySensor (h : Health) (s : Sensor) {f : SensorHealth → SensorHealth}
    (hf : (f (h.sensor s)).lastFusion = (h.sensor s).lastFusion ∨
      (f (h.sensor s)).lastFusion = some now) : Advanced now h (h.modifySensor s f) where
  fusion t := by
    rw [sensor_modifySensor]
    split
    · next hst =>
      subst hst
      exact hf
    · exact Or.inl rfl
  clock k := Or.inl (clock_modifySensor h s f k)

theorem recordFusion (h : Health) (s : Sensor) : Advanced now h (h.recordFusion s now) :=
  modifySensor h s (Or.inr rfl)

theorem recordFailure (h : Health) (s : Sensor) : Advanced now h (h.recordFailure s now) :=
  modifySensor h s (Or.inl rfl)

theorem setFaulty (h : Health) (s : Sensor) (faulty : Bool) :
    Advanced now h (h.setFaulty s faulty) :=
  modifySensor h s (Or.inl rfl)

theorem restartHorizontal (h : Health) : Advanced now h (h.restartHorizontal now) :=
  (setClock h .position).trans (setClock _ .velocity)

theorem healthAfterReset (h : Health) (source target : HeightSource) :
    Advanced now h (Height.healthAfterReset h source target now) := by
  have marked : Advanced now h
      (if target = source then h else h.setFaulty source.sensor true) := by
    split
    · exact refl now h
    · exact setFaulty h _ _
  exact (marked.trans (setFaulty _ target.sensor false)).trans (setClock _ .height)

end Advanced

/-- Nothing was noted but fusions at `now`: of the sensors only that they were fused. -/
structure OnlyFused (now : Time) (h h' : Health) : Prop where
  sensor : ∀ s, h'.sensor s = h.sensor s ∨
    h'.sensor s = { h.sensor s with lastFusion := some now }
  clock : ∀ k, h'.clock k = h.clock k ∨ h'.clock k = some now

namespace OnlyFused

variable {now : Time} {h h' h'' : Health}

theorem refl (now : Time) (h : Health) : OnlyFused now h h :=
  ⟨fun _ => Or.inl rfl, fun _ => Or.inl rfl⟩

theorem trans (a : OnlyFused now h h') (b : OnlyFused now h' h'') : OnlyFused now h h'' where
  sensor s := by
    rcases b.sensor s with hb | hb <;> rcases a.sensor s with ha | ha <;> rw [hb, ha]
    · exact Or.inl rfl
    · exact Or.inr rfl
    · exact Or.inr rfl
    · exact Or.inr rfl
  clock k := by
    rcases b.clock k with hb | hb
    · rw [hb]
      exact a.clock k
    · exact Or.inr hb

/-- What was noted only under a condition. -/
theorem when {p : Prop} [Decidable p] (a : OnlyFused now h h') (b : OnlyFused now h' h'') :
    OnlyFused now h (if p then h'' else h') := by
  split
  · exact a.trans b
  · exact a

theorem setClock (h : Health) (k : FusionClock) : OnlyFused now h (h.setClock k (some now)) where
  sensor s := Or.inl (sensor_setClock h k _ s)
  clock := (Advanced.setClock h k).clock

theorem recordFusion (h : Health) (s : Sensor) : OnlyFused now h (h.recordFusion s now) where
  sensor t := by
    rw [Health.recordFusion, sensor_modifySensor]
    split
    · next hst =>
      subst hst
      exact Or.inr rfl
    · exact Or.inl rfl
  clock := (Advanced.recordFusion h s).clock

/-- A failure of a sensor stays noted as it was. -/
theorem lastFailure (a : OnlyFused now h h') (s : Sensor) :
    (h'.sensor s).lastFailure = (h.sensor s).lastFailure := by
  rcases a.sensor s with ha | ha <;> rw [ha]

theorem advanced (a : OnlyFused now h h') : Advanced now h h' where
  fusion s := by
    rcases a.sensor s with ha | ha <;> rw [ha]
    · exact Or.inl rfl
    · exact Or.inr rfl
  clock := a.clock

end OnlyFused

end Health

/-! ## Fusions -/

namespace Fused

variable {α : Type} [Scalar α] (i : FusionInput α) (s : Fused α)

theorem takeGps_onlyFused : s.health.OnlyFused i.now (s.takeGps i).health := by
  unfold takeGps
  split
  · exact .refl _ _
  · split
    · exact .refl _ _
    · exact (((Health.OnlyFused.refl _ _).when (.setClock _ .position)).when
        (.setClock _ .velocity)).when (.recordFusion _ .gps)

theorem takeVision_onlyFused : s.health.OnlyFused i.now (s.takeVision i).health := by
  unfold takeVision
  split
  · exact .refl _ _
  · split
    · exact .refl _ _
    · exact (Health.OnlyFused.refl _ _).when
        ((Health.OnlyFused.setClock _ .position).trans (.recordFusion _ .vision))

theorem takeRange_onlyFused : s.health.OnlyFused i.now (s.takeRange i).health := by
  unfold takeRange
  split
  · exact .refl _ _
  · exact .setClock _ .terrain

theorem takeFlow_onlyFused : s.health.OnlyFused i.now (s.takeFlow i).health := by
  unfold takeFlow
  split
  · exact .refl _ _
  · split
    · exact .refl _ _
    · exact (Health.OnlyFused.refl _ _).when (.recordFusion _ .flow)

theorem takeHeight_onlyFused : s.health.OnlyFused i.now (s.takeHeight i).health := by
  unfold takeHeight
  split
  · exact .refl _ _
  · cases s.core.consumed.height <;> dsimp only <;> split
    all_goals first
      | exact .refl _ _
      | exact (Health.OnlyFused.refl _ _).when
          ((Health.OnlyFused.setClock _ .height).trans (.recordFusion _ _))

omit [Scalar α] in
theorem takeMag_onlyFused : s.health.OnlyFused i.now (s.takeMag i).health := by
  unfold takeMag
  split
  · exact .refl _ _
  · split
    · exact .refl _ _
    · exact .recordFusion _ .mag

theorem takeAirspeed_onlyFused : s.health.OnlyFused i.now (s.takeAirspeed i).health := by
  unfold takeAirspeed
  split
  · exact .refl _ _
  · split
    · exact .refl _ _
    · exact (Health.OnlyFused.refl _ _).when (.recordFusion _ .airspeed)

end Fused

/-- A fusion notes nothing but what it fused. -/
theorem GatedFilter.fuseActive_onlyFused {α : Type} [Scalar α] (f : GatedFilter α) (h : Health)
    (i : FusionInput α) : h.OnlyFused i.now (f.fuseActive h i).health := by
  have h₁ := Fused.takeGps_onlyFused i ⟨f, h⟩
  have h₂ := h₁.trans (Fused.takeVision_onlyFused i _)
  have h₃ := h₂.trans (Fused.takeRange_onlyFused i _)
  have h₄ := h₃.trans (Fused.takeFlow_onlyFused i _)
  have h₅ := h₄.trans (Fused.takeHeight_onlyFused i _)
  have h₆ := h₅.trans (Fused.takeMag_onlyFused i _)
  exact h₆.trans (Fused.takeAirspeed_onlyFused i _)

/-! ## Cycles -/

section Decision

variable {α C : Type} [Scalar α] [Estimator α C] {x : Context α} {s : Standing α} {c : C}
  {o : Outcome α C}

theorem advanced_decision (h : Decision x s c o) :
    s.health.Advanced x.clock.now o.standing.health := by
  cases h with
  | startFlow => exact .recordFusion _ .flow
  | startGps | recoverGps => exact .restartHorizontal _
  | failGps => exact .recordFailure _ .gps
  | suspectInertialFault => exact .setClock _ .inertialFault
  | resetHeight => exact .healthAfterReset _ _ _
  | _ => exact .refl _ _

theorem advanced_settled (x : Context α) (s : Standing α) (c : C) :
    s.health.Advanced x.clock.now (Arbiter.settled x s c).standing.health :=
  (Arbiter.settled_decisions x s c).keep
    (P := fun o => s.health.Advanced x.clock.now o.standing.health) (.refl _ _)
    fun _ p h hd => h.trans (advanced_decision (o := p) hd)

end Decision

/-! ## Steps of a flight -/

/-- A step that has no time notes nothing, and one that has notes nothing but its time. -/
theorem Flight.health_step {α C : Type} [Scalar α] [FilterCore α C] (f : Flight α C)
    (k : FlightStep α C) :
    let h := f.arbiter.standing.health
    let h' := (f.step k).arbiter.standing.health
    h' = h ∨ ∃ now, k.time? = some now ∧ h.Advanced now h' := by
  cases k with
  | update clock histories =>
      refine Or.inr ⟨clock.now, rfl, ?_⟩
      rw [Flight.standing_update]
      exact advanced_settled (f.arbiter.context clock histories) f.arbiter.standing f.core
  | setInAir _ => exact Or.inl rfl
  | predict _ _ _ => exact Or.inl rfl
  | fuse input => exact Or.inr ⟨_, rfl, (GatedFilter.fuseActive_onlyFused _ _ input).advanced⟩
  | adjust _ => exact Or.inl rfl

end NavArbiter

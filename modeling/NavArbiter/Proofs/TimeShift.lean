/-
# Shifted clocks

Everything the arbitration knows of time it knows as an age.  To say so, each thing that carries
times can be put later by a number of microseconds, which shifts every time in it and nothing else;
what never happened still never happened.  Ages do not notice (`age_shift`), so neither does any
test of a controller, and what a controller writes at a shifted time is the shift of what it writes.
-/
import NavArbiter.Arbiter

namespace NavArbiter

/-! ## Times and samples -/

namespace Time

theorem age_shift (d : Nat) (now t : Time) : age (now + d) (t + d) = age now t :=
  Nat.add_sub_add_right now d t

/-- A time that may be absent, put later. -/
def shift? (d : Nat) (t : Option Time) : Option Time := t.map (· + d)

@[simp] theorem shift?_zero (t : Option Time) : shift? 0 t = t := by
  cases t <;> rfl

theorem ageOf_shift (d : Nat) (now : Time) (t : Option Time) :
    ageOf (now + d) (shift? d t) = ageOf now t := by
  cases t with
  | none => rfl
  | some t => exact age_shift d now t

end Time

/-- A thing with a time that can be put later. -/
class Shiftable (β : Type) [Timed β] where
  shift : Nat → β → β
  time_shift : ∀ d x, time (shift d x) = time x + d
  shift_zero : ∀ x, shift 0 x = x

section Samples

variable {α : Type}

instance : Shiftable (GpsSample α) where
  shift d g := { g with time := g.time + d }
  time_shift _ _ := rfl
  shift_zero _ := rfl

instance : Shiftable (BaroSample α) where
  shift d b := { b with time := b.time + d }
  time_shift _ _ := rfl
  shift_zero _ := rfl

instance : Shiftable (RangeSample α) where
  shift d r := { r with time := r.time + d }
  time_shift _ _ := rfl
  shift_zero _ := rfl

instance : Shiftable (VisionSample α) where
  shift d v := { v with time := v.time + d }
  time_shift _ _ := rfl
  shift_zero _ := rfl

instance : Shiftable (FlowSample α) where
  shift d w := { w with time := w.time + d }
  time_shift _ _ := rfl
  shift_zero _ := rfl

instance : Shiftable (MagSample α) where
  shift d m := { m with time := m.time + d }
  time_shift _ _ := rfl
  shift_zero _ := rfl

instance : Shiftable (AirspeedSample α) where
  shift d a := { a with time := a.time + d }
  time_shift _ _ := rfl
  shift_zero _ := rfl

instance : Shiftable (OutputSample α) where
  shift d o := { o with time := o.time + d }
  time_shift _ _ := rfl
  shift_zero _ := rfl

end Samples

/-! ## Histories -/

namespace History

variable {β : Type} [Timed β] [Shiftable β]

omit [Timed β] [Shiftable β] in
theorem eq_of_samples {b b' : History β} (hc : b.capacity = b'.capacity)
    (hs : b.samples = b'.samples) : b = b' := by
  cases b
  cases b'
  cases hc
  cases hs
  rfl

/-- The history with every sample put later. -/
def shift (d : Nat) (b : History β) : History β := b.map (Shiftable.shift d)

@[simp] theorem shift_zero (b : History β) : b.shift 0 = b := by
  refine eq_of_samples rfl ?_
  show b.samples.map (Shiftable.shift 0) = b.samples
  rw [show Shiftable.shift 0 = id from funext Shiftable.shift_zero, List.map_id]

/-- What rewrites samples whatever their times rewrites them later as well. -/
theorem map_shift (d : Nat) (b : History β) {f : β → β}
    (hf : ∀ x, f (Shiftable.shift d x) = Shiftable.shift d (f x)) :
    (b.shift d).map f = (b.map f).shift d := by
  refine eq_of_samples rfl ?_
  show (b.samples.map (Shiftable.shift d)).map f = (b.samples.map f).map (Shiftable.shift d)
  rw [List.map_map, List.map_map, show f ∘ Shiftable.shift d = Shiftable.shift d ∘ f from funext hf]

theorem push_shift (d : Nat) (b : History β) (x : β) :
    (b.shift d).push (Shiftable.shift d x) = (b.push x).shift d := by
  refine eq_of_samples rfl ?_
  show (if (b.samples.map (Shiftable.shift d)).length = b.capacity
      then (b.samples.map (Shiftable.shift d)).tail else b.samples.map (Shiftable.shift d)) ++
        [Shiftable.shift d x] =
    ((if b.samples.length = b.capacity then b.samples.tail else b.samples) ++ [x]).map _
  rw [List.length_map, List.map_append, List.map_singleton]
  split
  · rw [List.map_tail]
  · rfl

theorem newest?_shift (d : Nat) (b : History β) :
    (b.shift d).newest? = b.newest?.map (Shiftable.shift d) :=
  List.getLast?_map

theorem near?_shift (d : Nat) (b : History β) (horizon : Time) :
    (b.shift d).near? (horizon + d) = (b.near? horizon).map (Shiftable.shift d) := by
  have reached : (fun x : β => decide (time (Shiftable.shift d x) ≤ horizon + d)) =
      fun x => decide (time x ≤ horizon) := by
    funext x
    rw [Shiftable.time_shift]
    exact decide_eq_decide.mpr Nat.add_le_add_iff_right
  unfold near? shift
  rw [samples_map, ← List.map_reverse, List.find?_map]
  exact congrArg (fun p => (b.samples.reverse.find? p).map (Shiftable.shift d)) reached

theorem isFresh_shift (d : Nat) (b : History β) (now : Time) (maxAge : Nat) :
    (b.shift d).isFresh (now + d) maxAge = b.isFresh now maxAge := by
  unfold isFresh
  rw [newest?_shift]
  cases b.newest? with
  | none => rfl
  | some x =>
      show decide (Time.age (now + d) (time (Shiftable.shift d x)) < maxAge) = _
      rw [Shiftable.time_shift, Time.age_shift]

end History

/-- The histories with every sample put later. -/
def Histories.shift {α : Type} (d : Nat) (h : Histories α) : Histories α where
  gps := h.gps.shift d
  baro := h.baro.shift d
  range := h.range.shift d
  vision := h.vision.shift d
  flow := h.flow.shift d
  mag := h.mag.shift d
  airspeed := h.airspeed.shift d

@[simp] theorem Histories.shift_zero {α : Type} (h : Histories α) : Histories.shift 0 h = h := by
  unfold Histories.shift
  simp only [History.shift_zero]

/-- Jumps move outputs, whenever these were buffered. -/
theorem Jump.applyAll_shift {α : Type} [Scalar α] (d : Nat) (js : List (Jump α)) :
    ∀ b, applyAll js (b.shift d) = (applyAll js b).shift d := by
  induction js with
  | nil => exact fun _ => rfl
  | cons j js ih =>
      intro b
      have one : j.applyToOutputs (b.shift d) = (j.applyToOutputs b).shift d :=
        b.map_shift d fun o => by cases j <;> rfl
      show applyAll js (j.applyToOutputs (b.shift d)) = _
      rw [one]
      exact ih (j.applyToOutputs b)

/-! ## Health -/

/-- The record of a sensor with its times put later. -/
def SensorHealth.shift (d : Nat) (r : SensorHealth) : SensorHealth :=
  { r with lastFusion := Time.shift? d r.lastFusion, lastFailure := Time.shift? d r.lastFailure }

@[simp] theorem SensorHealth.shift_zero (r : SensorHealth) : r.shift 0 = r := by
  unfold SensorHealth.shift
  simp only [Time.shift?_zero]

namespace Health

/-- The health record with its times put later. -/
def shift (d : Nat) (h : Health) : Health where
  sensors := h.sensors.map (SensorHealth.shift d)
  lastPosition := Time.shift? d h.lastPosition
  lastVelocity := Time.shift? d h.lastVelocity
  lastHeight := Time.shift? d h.lastHeight
  lastTerrain := Time.shift? d h.lastTerrain
  lastInertialFault := Time.shift? d h.lastInertialFault

@[simp] theorem shift_zero (h : Health) : h.shift 0 = h := by
  have same : h.sensors.map (SensorHealth.shift 0) = h.sensors := by
    rw [show SensorHealth.shift 0 = id from funext SensorHealth.shift_zero, Vector.map_id]
  unfold shift
  simp only [same, Time.shift?_zero]

variable (d : Nat) (h : Health)

theorem sensor_shift (s : Sensor) : (h.shift d).sensor s = (h.sensor s).shift d :=
  Vector.getElem_map ..

theorem sinceFusion_shift (s : Sensor) (now : Time) :
    ((h.shift d).sensor s).sinceFusion (now + d) = (h.sensor s).sinceFusion now := by
  rw [sensor_shift]
  exact Time.ageOf_shift d now _

theorem canRetry_shift (s : Sensor) (now : Time) (cooldown : Nat) :
    ((h.shift d).sensor s).canRetry (now + d) cooldown = (h.sensor s).canRetry now cooldown := by
  rw [sensor_shift]
  exact congrArg (fun age => decide (cooldown < age)) (Time.ageOf_shift d now _)

theorem isFaulty_shift (s : Sensor) : (h.shift d).isFaulty s = h.isFaulty s := by
  rw [isFaulty, sensor_shift]
  rfl

theorem since_shift (k : FusionClock) (now : Time) :
    (h.shift d).since k (now + d) = h.since k now := by
  cases k <;> exact Time.ageOf_shift d now _

/-- What is rewritten of a sensor is put later along with the rest. -/
theorem modifySensor_shift (s : Sensor) {f g : SensorHealth → SensorHealth}
    (hfg : g ((h.sensor s).shift d) = (f (h.sensor s)).shift d) :
    (h.shift d).modifySensor s g = (h.modifySensor s f).shift d := by
  unfold modifySensor
  rw [sensor_shift, hfg]
  simp only [shift, Vector.map_set]

theorem recordFusion_shift (s : Sensor) (now : Time) :
    (h.shift d).recordFusion s (now + d) = (h.recordFusion s now).shift d :=
  modifySensor_shift d h s rfl

theorem recordFailure_shift (s : Sensor) (now : Time) :
    (h.shift d).recordFailure s (now + d) = (h.recordFailure s now).shift d :=
  modifySensor_shift d h s rfl

theorem setFaulty_shift (s : Sensor) (faulty : Bool) :
    (h.shift d).setFaulty s faulty = (h.setFaulty s faulty).shift d :=
  modifySensor_shift d h s rfl

theorem healthAfterReset_shift (source target : HeightSource) (now : Time) :
    Height.healthAfterReset (h.shift d) source target (now + d) =
      (Height.healthAfterReset h source target now).shift d := by
  unfold Height.healthAfterReset
  by_cases hts : target = source
  · simp only [if_pos hts, setFaulty_shift]
    rfl
  · simp only [if_neg hts, setFaulty_shift]
    rfl

end Health

/-! ## What a cycle reads and keeps -/

/-- The clock put later. -/
def Clock.shift (d : Nat) (c : Clock) : Clock := ⟨c.now + d, c.horizon + d⟩

@[simp] theorem Clock.shift_zero (c : Clock) : c.shift 0 = c := rfl

variable {α : Type}

/-- The context of a cycle that is made later, on samples taken later. -/
def Context.shift (d : Nat) (x : Context α) : Context α :=
  { x with clock := x.clock.shift d, histories := x.histories.shift d }

@[simp] theorem Context.shift_settings (d : Nat) (x : Context α) :
    (x.shift d).settings = x.settings := rfl

@[simp] theorem Context.shift_before (d : Nat) (x : Context α) :
    (x.shift d).before = x.before := rfl

@[simp] theorem Context.shift_now (d : Nat) (x : Context α) :
    (x.shift d).clock.now = x.clock.now + d := rfl

@[simp] theorem Context.shift_histories (d : Nat) (x : Context α) :
    (x.shift d).histories = x.histories.shift d := rfl

/-- The standing with the times in its health record put later. -/
def Standing.shift (d : Nat) (s : Standing α) : Standing α := { s with health := s.health.shift d }

@[simp] theorem Standing.shift_zero (s : Standing α) : s.shift 0 = s := by
  unfold Standing.shift
  rw [Health.shift_zero]

@[simp] theorem Standing.shift_status (d : Nat) (s : Standing α) :
    (s.shift d).status = s.status := rfl

@[simp] theorem Standing.shift_health (d : Nat) (s : Standing α) :
    (s.shift d).health = s.health.shift d := rfl

/-- The outcome with the times in its standing put later. -/
def Outcome.shift {C : Type} (d : Nat) (o : Outcome α C) : Outcome α C :=
  { o with standing := o.standing.shift d }

theorem Outcome.shift_ite {C : Type} (d : Nat) (p : Prop) [Decidable p] (o o' : Outcome α C) :
    (if p then o else o').shift d = if p then o.shift d else o'.shift d := by
  split <;> rfl

/-- The arbiter with the times in its standing put later. -/
def Arbiter.shift (d : Nat) (a : Arbiter α) : Arbiter α :=
  { a with standing := a.standing.shift d }

@[simp] theorem Arbiter.shift_zero (a : Arbiter α) : a.shift 0 = a := by
  unfold Arbiter.shift
  rw [Standing.shift_zero]

/-! ## Tests

No test of a controller notices a shift. -/

section Tests

variable (d : Nat) (x : Context α) (s : Standing α)

theorem Context.isFresh_shift {β : Type} [Timed β] [Shiftable β] (b : History β) (maxAge : Nat) :
    (x.shift d).isFresh (b.shift d) maxAge = x.isFresh b maxAge :=
  b.isFresh_shift d x.clock.now maxAge

theorem Context.horizonFresh_shift {β : Type} [Timed β] [Shiftable β] (b : History β)
    (maxAge : Nat) : (x.shift d).horizonFresh (b.shift d) maxAge = x.horizonFresh b maxAge := by
  unfold Context.horizonFresh
  rw [show (x.shift d).clock.horizon = x.clock.horizon + d from rfl, History.near?_shift]
  cases b.near? x.clock.horizon with
  | none => rfl
  | some w =>
      show decide (Time.age (x.clock.horizon + d) (time (Shiftable.shift d w)) < maxAge) = _
      rw [Shiftable.time_shift, Time.age_shift]

theorem Vision.fresh_shift : Vision.fresh (x.shift d) = Vision.fresh x :=
  x.isFresh_shift d x.histories.vision _

theorem Vision.wantsPosition_shift :
    Vision.wantsPosition (x.shift d) = Vision.wantsPosition x := by
  simp only [Vision.wantsPosition, Vision.fresh_shift]
  rfl

theorem Vision.wantsYaw_shift : Vision.wantsYaw (x.shift d) = Vision.wantsYaw x := by
  simp only [Vision.wantsYaw, Vision.fresh_shift]
  rfl

theorem Flow.fresh_shift (maxAge : Nat) :
    (x.shift d).isFresh (Histories.shift d x.histories).flow maxAge =
      x.isFresh x.histories.flow maxAge :=
  x.isFresh_shift d x.histories.flow maxAge

theorem Flow.wantsStart_shift :
    Flow.wantsStart (x.shift d) (s.shift d) = Flow.wantsStart x s := by
  simp only [Flow.wantsStart, Context.shift_settings, Context.shift_before, Context.shift_now,
    Context.shift_histories, Standing.shift_health, Flow.fresh_shift, Health.since_shift]

theorem Flow.isLost_shift : Flow.isLost (x.shift d) (s.shift d) = Flow.isLost x s := by
  simp only [Flow.isLost, Context.shift_settings, Context.shift_before, Context.shift_now,
    Standing.shift_health, Health.sinceFusion_shift]

theorem Gps.fresh_shift : Gps.fresh (x.shift d) = Gps.fresh x :=
  x.isFresh_shift d x.histories.gps _

theorem Gps.timedOut_shift : Gps.timedOut (x.shift d) (s.shift d) = Gps.timedOut x s := by
  simp only [Gps.timedOut, Context.shift_settings, Context.shift_now, Standing.shift_health,
    Health.since_shift]

theorem Height.sourceFresh_shift (source : HeightSource) :
    Height.sourceFresh (x.shift d) source = Height.sourceFresh x source := by
  cases source <;> exact x.isFresh_shift d _ _

theorem Height.presentAtHorizon_shift (source : HeightSource) :
    Height.presentAtHorizon (x.shift d) source = Height.presentAtHorizon x source := by
  cases source <;> exact x.horizonFresh_shift d _ _

theorem Height.sound_shift (source : HeightSource) :
    Height.sound (x.shift d) (s.shift d) source = Height.sound x s source := by
  cases source <;>
    simp only [Height.sound, Context.shift_before, Standing.shift_health, Health.isFaulty_shift]

theorem Mag.decideStatus_shift (mode : MagMode) :
    Mag.decideStatus (x.shift d) mode (s.shift d) = Mag.decideStatus x mode s := by
  simp only [Mag.decideStatus, Context.shift_settings, Context.shift_before, Context.shift_now,
    Standing.shift_status, Standing.shift_health, Health.sinceFusion_shift]

variable [Scalar α]

theorem Height.gpsAccurate_shift : Height.gpsAccurate (x.shift d) = Height.gpsAccurate x := by
  have newest : (x.shift d).histories.gps.newest? =
      x.histories.gps.newest?.map (Shiftable.shift d) := x.histories.gps.newest?_shift d
  unfold Height.gpsAccurate
  rw [newest]
  cases x.histories.gps.newest? <;> rfl

end Tests

end NavArbiter

/-
# Only elapsed time counts

Take a flight on the gated filter and make the same flight later: every time that goes into it is
put later by `d`, the clocks of its health record and of its core included.  It goes the same way
(`Flight.elapsed_time`): the same announcements, each later by `d`, and the same arbiter and core
but for their times, which are later by `d` where there are any.  Clocks that never started stay so,
and nothing depends on where the time scale begins: a flight that has not begun is its own shift.

For cycles this is `Estimator.Hom.update`, once the filter made later is seen to answer as the
filter does (`shift_hom`).  Predictions and fusions are gone through here, with one lemma for each
kind of measurement.
-/
import NavArbiter.Proofs.Flight
import NavArbiter.Proofs.Transport

namespace NavArbiter

variable {α : Type}

/-! ## The filter -/

/-- The samples taken, put later. -/
def Consumed.shift (d : Nat) (c : Consumed) : Consumed where
  gps := Time.shift? d c.gps
  height := Time.shift? d c.height
  range := Time.shift? d c.range
  vision := Time.shift? d c.vision
  flow := Time.shift? d c.flow
  mag := Time.shift? d c.mag
  airspeed := Time.shift? d c.airspeed

namespace GatedFilter

/-- The filter with its outputs and the samples it took put later. -/
def shift (d : Nat) (f : GatedFilter α) : GatedFilter α :=
  { f with outputs := f.outputs.shift d, consumed := f.consumed.shift d }

/-- The measurement put later. -/
def HeightMeasurement.shift (d : Nat) (m : HeightMeasurement α) : HeightMeasurement α :=
  { m with time := m.time + d }

variable (d : Nat)

theorem sampleAt_shift {β : Type} [Timed β] [Shiftable β] (h : History β) (at? : Option Time) :
    sampleAt (h.shift d) (Time.shift? d at?) = (sampleAt h at?).map (Shiftable.shift d) := by
  cases at? with
  | none => exact h.newest?_shift d
  | some horizon => exact h.near?_shift d horizon

variable [Scalar α] (f : GatedFilter α)

theorem heightMeasurement_shift (source : HeightSource) (h : Histories α) (at? : Option Time) :
    (f.shift d).heightMeasurement source (Histories.shift d h) (Time.shift? d at?) =
      (f.heightMeasurement source h at?).map (HeightMeasurement.shift d) := by
  cases source with
  | baro =>
      show (sampleAt (h.baro.shift d) _).map _ = ((sampleAt h.baro at?).map _).map _
      rw [sampleAt_shift, Option.map_map, Option.map_map]
      rfl
  | gps =>
      show (sampleAt (h.gps.shift d) _).map _ = ((sampleAt h.gps at?).map _).map _
      rw [sampleAt_shift, Option.map_map, Option.map_map]
      rfl
  | range =>
      show (sampleAt (h.range.shift d) _).map _ = ((sampleAt h.range at?).map _).map _
      rw [sampleAt_shift, Option.map_map, Option.map_map]
      rfl
  | vision =>
      show (sampleAt (h.vision.shift d) _).map _ = ((sampleAt h.vision at?).map _).map _
      rw [sampleAt_shift, Option.map_map, Option.map_map]
      rfl

theorem predict_shift (now : Time) (dt : α) (atRest : Bool) :
    (f.shift d).predict (now + d) dt atRest = (f.predict now dt atRest).shift d := by
  let nav := { f.nav with position := f.nav.position.add (f.nav.velocity.scale dt) }
  have outputs : (f.outputs.shift d).push (nav.output (now + d)) =
      (f.outputs.push (nav.output now)).shift d :=
    f.outputs.push_shift d (nav.output now)
  unfold predict shift
  dsimp only
  rw [outputs]

theorem correct_shift (k : Component) (measured variance : α) :
    (f.shift d).correct k measured variance =
      ((f.correct k measured variance).1, (f.correct k measured variance).2.shift d) := by
  simp only [correct, shift]
  split
  · next hgate => exact if_pos hgate
  · next hgate => exact if_neg hgate

omit [Scalar α] in
theorem recordVerdict_shift (k : Component) (v : Verdict α) :
    (f.shift d).recordVerdict k v = (f.recordVerdict k v).shift d := rfl

theorem refreshDeclination_shift :
    (f.shift d).refreshDeclination = f.refreshDeclination.shift d := by
  simp only [refreshDeclination, shift]
  split
  · next hfield => exact if_pos hfield
  · next hfield => exact if_neg hfield

theorem resetPosition_shift (source : HorizontalSource) (h : Histories α) :
    (f.shift d).resetPosition source (Histories.shift d h) =
      (f.resetPosition source h).map id (shift d) := by
  cases source with
  | gps =>
      simp only [resetPosition, Histories.shift, History.newest?_shift]
      cases h.gps.newest? <;> rfl
  | vision =>
      simp only [resetPosition, Histories.shift, History.newest?_shift]
      cases h.vision.newest? <;> rfl

theorem resetVelocity_shift (source : HorizontalSource) (h : Histories α) :
    (f.shift d).resetVelocity source (Histories.shift d h) =
      (f.resetVelocity source h).map id (shift d) := by
  cases source with
  | gps =>
      simp only [resetVelocity, Histories.shift, History.newest?_shift]
      cases h.gps.newest? <;> rfl
  | vision =>
      simp only [resetVelocity, Histories.shift, History.newest?_shift]
      cases h.vision.newest? <;> rfl

theorem resetHeight_shift (source : HeightSource) (h : Histories α) :
    (f.shift d).resetHeight source (Histories.shift d h) =
      (f.resetHeight source h).map id (shift d) := by
  have measured : (f.shift d).heightMeasurement source (Histories.shift d h) none =
      (f.heightMeasurement source h none).map (HeightMeasurement.shift d) :=
    f.heightMeasurement_shift d source h none
  have fix : (Histories.shift d h).gps.newest? = h.gps.newest?.map (Shiftable.shift d) :=
    h.gps.newest?_shift d
  unfold resetHeight
  rw [measured, fix]
  cases f.heightMeasurement source h none with
  | none => rfl
  | some m =>
      cases h.gps.newest? with
      | none => cases source <;> rfl
      | some g => cases source <;> rfl

theorem resetHeading_shift (field : Vec3 α) :
    (f.shift d).resetHeading field = (f.resetHeading field).map id (shift d) := by
  unfold resetHeading
  split
  · rfl
  · rfl

omit [Scalar α] in
theorem alignOutputs_shift : (f.shift d).alignOutputs = f.alignOutputs.shift d := by
  have outputs : (f.outputs.shift d).map (fun o => f.nav.output o.time) =
      (f.outputs.map fun o => f.nav.output o.time).shift d :=
    f.outputs.map_shift d fun _ => rfl
  unfold alignOutputs shift
  dsimp only
  rw [outputs]

/-- The filter made later answers as the filter does. -/
theorem shift_hom : Estimator.Hom d (shift d : GatedFilter α → GatedFilter α) where
  nav _ := rfl
  setNav _ _ := rfl
  covariance _ := rfl
  setCovariance _ _ := rfl
  rotationVariances _ := rfl
  innovation _ _ := rfl
  testRatio _ _ := rfl
  terrain _ := rfl
  originSet _ := rfl
  refreshDeclination f := f.refreshDeclination_shift d
  flowVariance _ _ := rfl
  baroOffset _ := rfl
  heightOffset _ := rfl
  resetPosition f source h := f.resetPosition_shift d source h
  resetVelocity f source h := f.resetVelocity_shift d source h
  resetHeight f source h := f.resetHeight_shift d source h
  resetHeading f field := f.resetHeading_shift d field
  alignOutputs f := f.alignOutputs_shift d
  outputs _ := rfl
  setOutputs _ _ := rfl
  jumps _ := rfl
  setJumps _ _ := rfl

end GatedFilter

/-! ## Fusion -/

/-- The look of a fusion made later. -/
def FusionInput.shift (d : Nat) (i : FusionInput α) : FusionInput α :=
  { i with histories := Histories.shift d i.histories, horizon := i.horizon + d, now := i.now + d }

@[simp] theorem FusionInput.shift_status (d : Nat) (i : FusionInput α) :
    (i.shift d).status = i.status := rfl

/-- What fusion changes, put later. -/
def Fused.shift (d : Nat) (s : Fused α) : Fused α := ⟨s.core.shift d, s.health.shift d⟩

theorem Health.ite_shift (d : Nat) (p : Prop) [Decidable p] {h k k' : Health}
    (hk : k' = k.shift d) : (if p then k' else h.shift d) = (if p then k else h).shift d := by
  split
  · exact hk
  · rfl

theorem History.unseen?_shift {β : Type} [Timed β] [Shiftable β] (d : Nat) (b : History β)
    (horizon : Time) (last : Option Time) :
    (b.shift d).unseen? (horizon + d) (Time.shift? d last) =
      (b.unseen? horizon last).map (Shiftable.shift d) := by
  unfold unseen?
  rw [near?_shift]
  cases b.near? horizon with
  | none => rfl
  | some x =>
      cases last with
      | none => rfl
      | some t =>
          have taken : time (Shiftable.shift d x) ≤ t + d ↔ time x ≤ t := by
            rw [Shiftable.time_shift]
            exact Nat.add_le_add_iff_right
          simp only [Option.map_some, Time.shift?, taken]
          split <;> rfl

namespace Fused

variable [Scalar α] (d : Nat) (i : FusionInput α) (s : Fused α)

theorem takeGps_shift : (s.shift d).takeGps (i.shift d) = (s.takeGps i).shift d := by
  have sample : (i.shift d).histories.gps.unseen? (i.shift d).horizon
        (s.shift d).core.consumed.gps =
      (i.histories.gps.unseen? i.horizon s.core.consumed.gps).map (Shiftable.shift d) :=
    i.histories.gps.unseen?_shift d i.horizon s.core.consumed.gps
  -- what is noted, by which of the corrections were accepted
  have noted (position velocity fused : Bool) :
      (let h := if position then { s.health.shift d with lastPosition := some (i.now + d) }
          else s.health.shift d
        let h := if velocity then { h with lastVelocity := some (i.now + d) } else h
        if fused then h.recordFusion .gps (i.now + d) else h) =
      (let h := if position then { s.health with lastPosition := some i.now } else s.health
        let h := if velocity then { h with lastVelocity := some i.now } else h
        if fused then h.recordFusion .gps i.now else h).shift d := by
    have clocks : (let h := if position then
              { s.health.shift d with lastPosition := some (i.now + d) } else s.health.shift d
          if velocity then { h with lastVelocity := some (i.now + d) } else h) =
        (let h := if position then { s.health with lastPosition := some i.now } else s.health
          if velocity then { h with lastVelocity := some i.now } else h).shift d := by
      cases position <;> cases velocity <;> rfl
    dsimp only at clocks ⊢
    rw [clocks]
    exact Health.ite_shift d fused (Health.recordFusion_shift d _ .gps i.now)
  unfold takeGps
  rw [FusionInput.shift_status, sample]
  split
  · rfl
  · cases i.histories.gps.unseen? i.horizon s.core.consumed.gps with
    | none => rfl
    | some g =>
        have taken : { (s.shift d).core with consumed :=
              { (s.shift d).core.consumed with gps := some (Shiftable.shift d g).time } } =
            GatedFilter.shift d
              { s.core with consumed := { s.core.consumed with gps := some g.time } } := rfl
        simp only [Option.map_some]
        rw [taken]
        simp only [GatedFilter.correct_shift, GatedFilter.recordVerdict_shift]
        exact congrArg (Fused.mk _) (noted _ _ _)

theorem takeVision_shift : (s.shift d).takeVision (i.shift d) = (s.takeVision i).shift d := by
  have sample : (i.shift d).histories.vision.unseen? (i.shift d).horizon
        (s.shift d).core.consumed.vision =
      (i.histories.vision.unseen? i.horizon s.core.consumed.vision).map (Shiftable.shift d) :=
    i.histories.vision.unseen?_shift d i.horizon s.core.consumed.vision
  unfold takeVision
  rw [FusionInput.shift_status, sample]
  split
  · rfl
  · cases i.histories.vision.unseen? i.horizon s.core.consumed.vision with
    | none => rfl
    | some v =>
        have taken : { (s.shift d).core with consumed :=
              { (s.shift d).core.consumed with vision := some (Shiftable.shift d v).time } } =
            GatedFilter.shift d
              { s.core with consumed := { s.core.consumed with vision := some v.time } } := rfl
        simp only [Option.map_some]
        rw [taken]
        simp only [GatedFilter.correct_shift, GatedFilter.recordVerdict_shift]
        exact congrArg (Fused.mk _) (Health.ite_shift d _ (Health.recordFusion_shift d
          { s.health with lastPosition := some i.now } .vision i.now))

theorem takeRange_shift : (s.shift d).takeRange (i.shift d) = (s.takeRange i).shift d := by
  have sample : (i.shift d).histories.range.unseen? (i.shift d).horizon
        (s.shift d).core.consumed.range =
      (i.histories.range.unseen? i.horizon s.core.consumed.range).map (Shiftable.shift d) :=
    i.histories.range.unseen?_shift d i.horizon s.core.consumed.range
  unfold takeRange
  rw [sample]
  cases i.histories.range.unseen? i.horizon s.core.consumed.range with
  | none => rfl
  | some r => rfl

theorem takeFlow_shift : (s.shift d).takeFlow (i.shift d) = (s.takeFlow i).shift d := by
  have sample : (i.shift d).histories.flow.unseen? (i.shift d).horizon
        (s.shift d).core.consumed.flow =
      (i.histories.flow.unseen? i.horizon s.core.consumed.flow).map (Shiftable.shift d) :=
    i.histories.flow.unseen?_shift d i.horizon s.core.consumed.flow
  unfold takeFlow
  rw [FusionInput.shift_status, sample]
  split
  · rfl
  · cases i.histories.flow.unseen? i.horizon s.core.consumed.flow with
    | none => rfl
    | some w =>
        exact congrArg (Fused.mk _)
          (Health.ite_shift d _ (s.health.recordFusion_shift d .flow i.now))

theorem takeHeight_shift : (s.shift d).takeHeight (i.shift d) = (s.takeHeight i).shift d := by
  have measured : (s.shift d).core.heightMeasurement (i.shift d).status.height
        (i.shift d).histories (some (i.shift d).horizon) =
      (s.core.heightMeasurement i.status.height i.histories (some i.horizon)).map
        (GatedFilter.HeightMeasurement.shift d) :=
    s.core.heightMeasurement_shift d i.status.height i.histories (some i.horizon)
  have noted (fused : Bool) :
      (if fused then { s.health.shift d with lastHeight := some (i.now + d) }.recordFusion
          i.status.height.sensor (i.now + d) else s.health.shift d) =
      (if fused then { s.health with lastHeight := some i.now }.recordFusion
          i.status.height.sensor i.now else s.health).shift d :=
    Health.ite_shift d fused (Health.recordFusion_shift d
      { s.health with lastHeight := some i.now } i.status.height.sensor i.now)
  unfold takeHeight
  rw [measured]
  cases s.core.heightMeasurement i.status.height i.histories (some i.horizon) with
  | none => rfl
  | some m =>
      have taken : { (s.shift d).core with consumed :=
            { (s.shift d).core.consumed with height := some (m.shift d).time } } =
          GatedFilter.shift d
            { s.core with consumed := { s.core.consumed with height := some m.time } } := rfl
      simp only [Option.map_some]
      rw [taken]
      simp only [GatedFilter.correct_shift, GatedFilter.recordVerdict_shift]
      -- here two times are compared that do not both come out of a history
      cases hc : s.core.consumed.height with
      | none =>
          have hc' : (s.shift d).core.consumed.height = none := congrArg (Time.shift? d) hc
          simp only [hc', Bool.not_true, Bool.false_eq_true, if_false]
          exact congrArg (Fused.mk _) (noted _)
      | some t =>
          have hc' : (s.shift d).core.consumed.height = some (t + d) :=
            congrArg (Time.shift? d) hc
          have later : decide (t + d < (m.shift d).time) = decide (t < m.time) :=
            decide_eq_decide.mpr Nat.add_lt_add_iff_right
          simp only [hc', later]
          split
          · rfl
          · exact congrArg (Fused.mk _) (noted _)

omit [Scalar α] in
theorem takeMag_shift : (s.shift d).takeMag (i.shift d) = (s.takeMag i).shift d := by
  have sample : (i.shift d).histories.mag.unseen? (i.shift d).horizon
        (s.shift d).core.consumed.mag =
      (i.histories.mag.unseen? i.horizon s.core.consumed.mag).map (Shiftable.shift d) :=
    i.histories.mag.unseen?_shift d i.horizon s.core.consumed.mag
  unfold takeMag
  rw [FusionInput.shift_status, sample]
  split
  · rfl
  · cases i.histories.mag.unseen? i.horizon s.core.consumed.mag with
    | none => rfl
    | some m => exact congrArg (Fused.mk _) (s.health.recordFusion_shift d .mag i.now)

theorem takeAirspeed_shift : (s.shift d).takeAirspeed (i.shift d) = (s.takeAirspeed i).shift d := by
  have sample : (i.shift d).histories.airspeed.unseen? (i.shift d).horizon
        (s.shift d).core.consumed.airspeed =
      (i.histories.airspeed.unseen? i.horizon s.core.consumed.airspeed).map (Shiftable.shift d) :=
    i.histories.airspeed.unseen?_shift d i.horizon s.core.consumed.airspeed
  unfold takeAirspeed
  rw [FusionInput.shift_status, sample]
  split
  · rfl
  · cases i.histories.airspeed.unseen? i.horizon s.core.consumed.airspeed with
    | none => rfl
    | some a =>
        exact congrArg (Fused.mk _)
          (Health.ite_shift d _ (s.health.recordFusion_shift d .airspeed i.now))

end Fused

/-- A fusion made later fuses the same. -/
theorem GatedFilter.fuseActive_shift [Scalar α] (d : Nat) (f : GatedFilter α) (h : Health)
    (i : FusionInput α) :
    (f.shift d).fuseActive (h.shift d) (i.shift d) = (f.fuseActive h i).shift d := by
  have start : Fused.mk (f.shift d) (h.shift d) = (Fused.mk f h).shift d := rfl
  unfold fuseActive
  rw [start, Fused.takeGps_shift, Fused.takeVision_shift, Fused.takeRange_shift,
    Fused.takeFlow_shift, Fused.takeHeight_shift, Fused.takeMag_shift, Fused.takeAirspeed_shift]

/-! ## Flights -/

/-- The step made later. -/
def FlightStep.shift {C : Type} (d : Nat) : FlightStep α C → FlightStep α C
  | .update clock samples => .update (clock.shift d) (Histories.shift d samples)
  | .setInAir inAir => .setInAir inAir
  | .predict now dt atRest => .predict (now + d) dt atRest
  | .fuse input => .fuse (input.shift d)
  | .adjust change => .adjust change

namespace Flight

/-- The flight with every time in its arbiter and its core put later. -/
def shift (d : Nat) (f : Flight α (GatedFilter α)) : Flight α (GatedFilter α) :=
  ⟨f.arbiter.shift d, f.core.shift d⟩

variable [Scalar α] (d : Nat)

/-- A flight that has not begun has no times to put later. -/
theorem shift_new (s s' : Settings α) :
    (⟨.ofSettings s, .ofSettings s'⟩ : Flight α (GatedFilter α)).shift d =
      ⟨.ofSettings s, .ofSettings s'⟩ := by
  have health : Health.initial.shift d = .initial := by
    have sensors : (Vector.replicate 7 ({} : SensorHealth)).map (SensorHealth.shift d) =
        Vector.replicate 7 {} := Vector.map_replicate
    exact congrArg (fun v => ({ sensors := v } : Health)) sensors
  have standing : (Standing.initial : Standing α).shift d = .initial :=
    congrArg (fun h => { (Standing.initial : Standing α) with health := h }) health
  exact congrArg (fun t => (⟨⟨s, t, .initial⟩, .ofSettings s'⟩ : Flight α (GatedFilter α))) standing

theorem cycle_shift (f : Flight α (GatedFilter α)) (clock : Clock) (samples : Histories α) :
    (f.shift d).cycle (clock.shift d) (Histories.shift d samples) =
      ((f.cycle clock samples).map (GatedFilter.shift d)).shift d :=
  GatedFilter.shift_hom d |>.update f.arbiter clock samples f.core

theorem step_shift (f : Flight α (GatedFilter α)) (k : FlightStep α (GatedFilter α))
    (timeless : ∀ change, k = .adjust change → ∀ c, change (c.shift d) = (change c).shift d) :
    (f.shift d).step (k.shift d) = (f.step k).shift d := by
  cases k with
  | update clock samples =>
      simp only [FlightStep.shift, step, cycle_shift]
      rfl
  | setInAir _ => rfl
  | predict now dt atRest =>
      exact congrArg (Flight.mk _) (f.core.predict_shift d now dt atRest)
  | fuse input =>
      have fused := f.core.fuseActive_shift d f.arbiter.standing.health input
      simp only [FlightStep.shift, step, FilterCore.filter, FilterCore.withFilter]
      rw [show (f.shift d).core.fuseActive (f.shift d).arbiter.standing.health (input.shift d) =
        (f.core.fuseActive f.arbiter.standing.health input).shift d from fused]
      rfl
  | adjust change => exact congrArg (Flight.mk _) (timeless change rfl f.core)

theorem eventsOf_shift (f : Flight α (GatedFilter α)) (k : FlightStep α (GatedFilter α)) :
    (f.shift d).eventsOf (k.shift d) = (f.eventsOf k).map fun e => (e.1 + d, e.2) := by
  cases k with
  | update clock samples =>
      simp only [FlightStep.shift, eventsOf, cycle_shift, List.map_map]
      rfl
  | setInAir _ => rfl
  | predict _ _ _ => rfl
  | fuse _ => rfl
  | adjust _ => rfl

/-- The whole flight is made later. -/
theorem after_shift :
    ∀ (f : Flight α (GatedFilter α)) (steps : List (FlightStep α (GatedFilter α))),
    (∀ change, .adjust change ∈ steps → ∀ c, change (c.shift d) = (change c).shift d) →
    (f.shift d).after (steps.map (.shift d)) = (f.after steps).shift d ∧
      (f.shift d).journal (steps.map (.shift d)) =
        (f.journal steps).map fun e => (e.1 + d, e.2)
  | _, [], _ => ⟨rfl, rfl⟩
  | f, k :: ks, timeless => by
      have first : (f.shift d).step (k.shift d) = (f.step k).shift d := by
        refine f.step_shift d k ?_
        rintro change rfl
        exact timeless change (List.mem_cons_self ..)
      have rest := after_shift (f.step k) ks fun change hc =>
        timeless change (List.mem_cons_of_mem k hc)
      rw [← first] at rest
      refine ⟨rest.1, ?_⟩
      simp only [List.map_cons, journal, List.map_append, eventsOf_shift]
      rw [rest.2]

/-- A flight made later by `d` announces the same, later by `d`.  Its arbiter ends up as in the
flight itself, but for the clocks in the health record, and its core, but for the times of the
outputs and of the samples taken: each of these is later by `d` if there is one. -/
theorem elapsed_time (f : Flight α (GatedFilter α)) (steps : List (FlightStep α (GatedFilter α)))
    (timeless : ∀ change, .adjust change ∈ steps →
      ∀ c, change (c.shift d) = (change c).shift d) :
    let g := f.after steps
    let later := (f.shift d).after (steps.map (.shift d))
    let health := g.arbiter.standing.health
    let health' := later.arbiter.standing.health
    (f.shift d).journal (steps.map (.shift d)) =
        (f.journal steps).map (fun e => (e.1 + d, e.2)) ∧
      later.arbiter =
        { g.arbiter with standing := { g.arbiter.standing with health := health' } } ∧
      (∀ k, health'.clock k = Time.shift? d (health.clock k)) ∧
      (∀ s, health'.sensor s =
        { lastFusion := Time.shift? d (health.sensor s).lastFusion
          lastFailure := Time.shift? d (health.sensor s).lastFailure
          faulty := (health.sensor s).faulty }) ∧
      later.core =
        { g.core with
          outputs := g.core.outputs.map fun o => { o with time := o.time + d }
          consumed := g.core.consumed.shift d } := by
  intro g later health health'
  obtain ⟨states, announced⟩ := after_shift d f steps timeless
  have same : health' = health.shift d :=
    congrArg (fun f : Flight α (GatedFilter α) => f.arbiter.standing.health) states
  refine ⟨announced, ?_, ?_, ?_, ?_⟩
  · rw [same]
    exact congrArg Flight.arbiter states
  · intro k
    rw [same]
    cases k <;> rfl
  · intro s
    rw [same]
    exact health.sensor_shift d s
  · exact congrArg Flight.core states

end Flight

/-- A flight whose core is ready before the first cycle: it aligns tilt there, is reset to a height
and then fuses it. -/
def firstHeight : List (FlightStep Float (GatedFilter Float)) :=
  let samples : Histories Float := { noSamples with baro := historyOf [⟨900000, 1.0⟩] }
  [.predict 980000 1.0 false,
    .adjust fun c => { c with rotationVariances := ⟨1e-4, 1e-4, 0.1⟩, originSet := true },
    .update ⟨1000000, 900000⟩ samples, .fuse ⟨.initial, samples, 900000, 1000000⟩]

/-- The same flight from new on the next day announces the same a day later, and has its height
from then. -/
theorem elapsed_time_nextDay :
    let f : Flight Float (GatedFilter Float) := ⟨.ofSettings .default, .ofSettings .default⟩
    let day := 86400000000
    let nextDay := firstHeight.map (.shift day)
    (f.journal nextDay).map (fun e => (e.1, e.2.name)) =
        [(1000000 + day, "tilt_aligned"), (1000000 + day, "height_reset"),
          (1000000 + day, "mag_mode_changed")] ∧
      f.journal nextDay = (f.journal firstHeight).map (fun e => (e.1 + day, e.2)) ∧
      (f.after nextDay).arbiter.standing.health.clock .height = some (1000000 + day) := by
  intro f day nextDay
  have timeless : ∀ change, .adjust change ∈ firstHeight →
      ∀ c, change (c.shift day) = (change c).shift day := by
    intro change hc c
    simp only [firstHeight, List.mem_cons, FlightStep.adjust.injEq, reduceCtorEq, false_or,
      List.not_mem_nil, or_false] at hc
    rw [hc]
    rfl
  have flight := Flight.elapsed_time day f firstHeight timeless
  rw [Flight.shift_new] at flight
  refine ⟨?_, flight.1, ?_⟩
  · rw [flight.1]
    decide +kernel
  · rw [flight.2.2.1 .height]
    decide +kernel

end NavArbiter

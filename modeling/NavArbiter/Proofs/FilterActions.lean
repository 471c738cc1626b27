/-
# What is done to the filter

A fusion corrects the filter with the samples it takes, and past that it only keeps notes.  A reset
writes into the state and logs a jump each time.

    fusion    a sample is taken            its time is noted as that of the last one
              a component is corrected     with the variance of the sample
              a verdict was passed         it becomes the innovation of its component
              a distance is taken          the terrain is where it ends

    reset     a position or velocity       written with the variance of the sample
              a heading                    attitude, its variances and the field are written

`FusionAct` and `ResetAct` are one such act, with the samples that its variance comes from: it is
the square of one of their accuracies, unless it is the same for all samples (`SampleVariance`).
Fusions and resets are nothing but chains of them (`fuseActive_acts`, `resetPosition_acts` and its
like), so what each act keeps of a filter is kept.

A cycle resets the filter and writes into it, but neither what it took nor what it measures with
(`rewritten_update`).
-/
import Mathlib.Logic.Relation
import NavArbiter.Estimator.Fusion
import NavArbiter.Proofs.CoreActions

namespace NavArbiter

variable {α : Type} [Scalar α]

/-- An accuracy that variances are made of: that of the barometer, or one of a sample. -/
inductive Accuracy (baroNoise : α) (h : Histories α) : α → Prop
  | baro : Accuracy baroNoise h baroNoise
  | horizontal {g : GpsSample α} : g ∈ h.gps.samples → Accuracy baroNoise h g.horizontalAccuracy
  | vertical {g : GpsSample α} : g ∈ h.gps.samples → Accuracy baroNoise h g.verticalAccuracy
  | speed {g : GpsSample α} : g ∈ h.gps.samples → Accuracy baroNoise h g.speedAccuracy
  | pose {v : VisionSample α} : v ∈ h.vision.samples → Accuracy baroNoise h v.positionError

/-- A variance that samples are given: the square of an accuracy, or a fixed one for distances and
for the velocity of a pose, which is taken to be at rest. -/
inductive SampleVariance (baroNoise : α) (h : Histories α) : α → Prop
  | square {a : α} : Accuracy baroNoise h a → SampleVariance baroNoise h (a * a)
  | distance : SampleVariance baroNoise h 0.01
  | rest : SampleVariance baroNoise h 0.25

/-- One act of a fusion of these samples on the filter. -/
inductive FusionAct (h : Histories α) (f : GatedFilter α) : GatedFilter α → Prop
  | consume (taken : Consumed) : FusionAct h f { f with consumed := taken }
  | correct (k : Component) (measured : α) {variance : α} :
      SampleVariance f.baroNoise h variance → FusionAct h f (f.correct k measured variance).2
  | recordVerdict (k : Component) (v : Verdict α) : FusionAct h f (f.recordVerdict k v)
  | measureTerrain (terrain : α) : FusionAct h f { f with terrain := terrain }

/-- Acts of fusions, one after another. -/
abbrev FusionActs (h : Histories α) : GatedFilter α → GatedFilter α → Prop :=
  Relation.ReflTransGen (FusionAct h)

/-- One act of a reset to these samples on the filter. -/
inductive ResetAct (h : Histories α) (f : GatedFilter α) : GatedFilter α → Prop
  | moveTo (p : Vec2 α) {variance : α} : SampleVariance f.baroNoise h variance →
      ResetAct h f (f.moveTo p variance)
  | setSpeed (v : Vec2 α) {variance : α} : SampleVariance f.baroNoise h variance →
      ResetAct h f (f.setSpeed v variance)
  | moveDownTo (down : α) {variance : α} : SampleVariance f.baroNoise h variance →
      ResetAct h f (f.moveDownTo down variance)
  | setDescent (speed : α) {variance : α} : SampleVariance f.baroNoise h variance →
      ResetAct h f (f.setDescent speed variance)
  | turn {field : Vec3 α} (finite : field.isFinite = true) (rotation : Attitude α)
      (magEarth variances : Vec3 α) :
      ResetAct h f ({ f with
        nav := { f.nav with
          attitude := f.nav.attitude.withYaw (f.headingOf field)
          magEarth := magEarth }
        rotationVariances := variances }.recordJump (.attitude rotation))

/-- Acts of resets, one after another. -/
abbrev ResetActs (h : Histories α) : GatedFilter α → GatedFilter α → Prop :=
  Relation.ReflTransGen (ResetAct h)

/-! ## Samples -/

section Samples

variable {β : Type} [Timed β] {b : History β} {x : β}

omit [Timed β] in
theorem History.mem_of_newest? (h : b.newest? = some x) : x ∈ b.samples :=
  List.mem_of_getLast? h

theorem History.mem_of_near? {horizon : Time} (h : b.near? horizon = some x) : x ∈ b.samples :=
  List.mem_reverse.mp (List.mem_of_find?_eq_some h)

theorem History.mem_of_unseen? {horizon : Time} {last : Option Time}
    (h : b.unseen? horizon last = some x) : x ∈ b.samples := by
  unfold unseen? at h
  split at h
  · cases h
  · next y found =>
    have same : y = x := by
      split at h
      · exact Option.some.inj h
      · split at h
        · cases h
        · exact Option.some.inj h
    exact same ▸ mem_of_near? found

theorem GatedFilter.mem_of_sampleAt {at? : Option Time} (h : sampleAt b at? = some x) :
    x ∈ b.samples := by
  cases at? with
  | none => exact History.mem_of_newest? h
  | some horizon => exact History.mem_of_near? h

end Samples

/-! ## Fusions -/

theorem GatedFilter.heightMeasurement_variance {f : GatedFilter α} {source : HeightSource}
    {samples : Histories α} {at? : Option Time} {m : HeightMeasurement α}
    (h : f.heightMeasurement source samples at? = some m) :
    SampleVariance f.baroNoise samples m.variance := by
  cases source with
  | baro =>
      obtain ⟨b, -, rfl⟩ := Option.map_eq_some_iff.mp h
      exact .square .baro
  | gps =>
      obtain ⟨g, found, rfl⟩ := Option.map_eq_some_iff.mp h
      exact .square (.vertical (mem_of_sampleAt found))
  | range =>
      obtain ⟨r, -, rfl⟩ := Option.map_eq_some_iff.mp h
      exact .distance
  | vision =>
      obtain ⟨v, found, rfl⟩ := Option.map_eq_some_iff.mp h
      exact .square (.pose (mem_of_sampleAt found))

namespace Fused

variable (i : FusionInput α) (s : Fused α)

theorem takeGps_acts : FusionActs i.histories s.core (s.takeGps i).core := by
  unfold takeGps
  split
  · exact .refl
  · split
    · exact .refl
    · next g found =>
      have seen := History.mem_of_unseen? found
      have position (noise : α) : SampleVariance noise i.histories _ := .square (.horizontal seen)
      have velocity (noise : α) : SampleVariance noise i.histories _ := .square (.speed seen)
      have taken : FusionActs i.histories s.core
          { s.core with consumed := { s.core.consumed with gps := some g.time } } :=
        .single (.consume _)
      have north := taken.tail (.correct .posNorth g.position.x (position _))
      have east := north.tail (.correct .posEast g.position.y (position _))
      have vNorth := east.tail (.correct .velNorth g.velocity.x (velocity _))
      have vEast := vNorth.tail (.correct .velEast g.velocity.y (velocity _))
      have vDown := vEast.tail (.correct .velDown g.velocity.z (velocity _))
      dsimp only
      iterate 5 refine .tail ?_ (.recordVerdict _ _)
      exact vDown

theorem takeVision_acts : FusionActs i.histories s.core (s.takeVision i).core := by
  unfold takeVision
  split
  · exact .refl
  · split
    · exact .refl
    · next v found =>
      have variance (noise : α) : SampleVariance noise i.histories _ :=
        .square (.pose (History.mem_of_unseen? found))
      have taken : FusionActs i.histories s.core
          { s.core with consumed := { s.core.consumed with vision := some v.time } } :=
        .single (.consume _)
      have north := taken.tail (.correct .posNorth v.position.x (variance _))
      have east := north.tail (.correct .posEast v.position.y (variance _))
      dsimp only
      iterate 2 refine .tail ?_ (.recordVerdict _ _)
      exact east

theorem takeRange_acts : FusionActs i.histories s.core (s.takeRange i).core := by
  unfold takeRange
  split
  · exact .refl
  · next r _ =>
    have taken : FusionActs i.histories s.core
        { s.core with consumed := { s.core.consumed with range := some r.time } } :=
      .single (.consume _)
    exact taken.tail (.measureTerrain _)

theorem takeFlow_acts : FusionActs i.histories s.core (s.takeFlow i).core := by
  unfold takeFlow
  split
  · exact .refl
  · split
    · exact .refl
    · exact .single (.consume _)

theorem takeHeight_acts : FusionActs i.histories s.core (s.takeHeight i).core := by
  unfold takeHeight
  split
  · exact .refl
  · next m hm =>
    have variance := GatedFilter.heightMeasurement_variance hm
    have taken : FusionActs i.histories s.core
        { s.core with consumed := { s.core.consumed with height := some m.time } } :=
      .single (.consume _)
    have corrected := taken.tail (.correct .posDown m.down variance)
    dsimp only
    split <;> split
    · exact .refl
    · exact corrected.tail (.recordVerdict _ _)
    · exact .refl
    · exact corrected.tail (.recordVerdict _ _)

theorem takeMag_acts : FusionActs i.histories s.core (s.takeMag i).core := by
  unfold takeMag
  split
  · exact .refl
  · split
    · exact .refl
    · exact .single (.consume _)

theorem takeAirspeed_acts : FusionActs i.histories s.core (s.takeAirspeed i).core := by
  unfold takeAirspeed
  split
  · exact .refl
  · split
    · exact .refl
    · exact .single (.consume _)

end Fused

theorem GatedFilter.fuseActive_acts (f : GatedFilter α) (health : Health) (i : FusionInput α) :
    FusionActs i.histories f (f.fuseActive health i).core := by
  have h₁ := Fused.takeGps_acts i ⟨f, health⟩
  have h₂ := h₁.trans (Fused.takeVision_acts i _)
  have h₃ := h₂.trans (Fused.takeRange_acts i _)
  have h₄ := h₃.trans (Fused.takeFlow_acts i _)
  have h₅ := h₄.trans (Fused.takeHeight_acts i _)
  have h₆ := h₅.trans (Fused.takeMag_acts i _)
  exact h₆.trans (Fused.takeAirspeed_acts i _)

/-! ## Resets -/

namespace GatedFilter

variable (f : GatedFilter α)

theorem resetPosition_acts (source : HorizontalSource) (samples : Histories α) :
    ResetActs samples f (f.resetPosition source samples).2 := by
  unfold resetPosition
  cases source with
  | gps =>
      dsimp only
      split
      · next g newest =>
        exact .single (.moveTo _ (.square (.horizontal (History.mem_of_newest? newest))))
      · exact .refl
  | vision =>
      dsimp only
      split
      · next v newest =>
        exact .single (.moveTo _ (.square (.pose (History.mem_of_newest? newest))))
      · exact .refl

theorem resetVelocity_acts (source : HorizontalSource) (samples : Histories α) :
    ResetActs samples f (f.resetVelocity source samples).2 := by
  unfold resetVelocity
  cases source with
  | gps =>
      dsimp only
      split
      · next g newest =>
        exact .single (.setSpeed _ (.square (.speed (History.mem_of_newest? newest))))
      · exact .refl
  | vision =>
      dsimp only
      split
      · exact .single (.setSpeed _ .rest)
      · exact .refl

theorem resetHeight_acts (source : HeightSource) (samples : Histories α) :
    ResetActs samples f (f.resetHeight source samples).2 := by
  unfold resetHeight
  split
  · exact .refl
  · next m hm =>
    have moved : ResetActs samples f (f.moveDownTo m.down m.variance) :=
      .single (.moveDownTo m.down (heightMeasurement_variance hm))
    dsimp only
    split
    · next g newest =>
      exact moved.tail (.setDescent _ (.square (.speed (History.mem_of_newest? newest))))
    · exact moved

theorem resetHeading_acts (field : Vec3 α) (samples : Histories α) :
    ResetActs samples f (f.resetHeading field).2 := by
  unfold resetHeading
  split
  · exact .refl
  · next sound =>
    have finite : field.isFinite = true := by
      cases hf : field.isFinite with
      | true => rfl
      | false => simp [hf] at sound
    exact .single (.turn finite _ _ _)

/-! ## Cycles -/

section Cycles

variable {f g h : GatedFilter α} {x : Context α} {es : List (Event α)}

/-- Nothing but the state, its errors, the declination, the outputs and the log of jumps was
written. -/
def Rewritten (f g : GatedFilter α) : Prop :=
  ∃ nav covariance rotationVariances declination outputs jumps,
    g = { f with nav, covariance, rotationVariances, declination, outputs, jumps }

omit [Scalar α] in
theorem Rewritten.refl (f : GatedFilter α) : Rewritten f f := ⟨_, _, _, _, _, _, rfl⟩

omit [Scalar α] in
theorem Rewritten.trans (first : Rewritten f g) (second : Rewritten g h) : Rewritten f h := by
  obtain ⟨_, _, _, _, _, _, rfl⟩ := first
  obtain ⟨_, _, _, _, _, _, rfl⟩ := second
  exact ⟨_, _, _, _, _, _, rfl⟩

theorem rewritten_resets {samples : Histories α} (acts : ResetActs samples f g) : Rewritten f g :=
  kept_of_acts (P := Rewritten f) acts
    (fun first act => first.trans (by cases act <;> exact ⟨_, _, _, _, _, _, rfl⟩)) (.refl f)

/-- A refresh writes the declination, if anything. -/
theorem refreshDeclination_frame (f : GatedFilter α) :
    ∃ declination, f.refreshDeclination = { f with declination } := by
  unfold refreshDeclination
  dsimp only
  split <;> exact ⟨_, rfl⟩

theorem rewritten_coreAct (act : CoreAct x es f g) : Rewritten f g := by
  cases act with
  | refreshDeclination =>
      obtain ⟨_, refreshed⟩ := f.refreshDeclination_frame
      exact ⟨_, _, _, _, _, _, refreshed⟩
  | resetPosition source => exact rewritten_resets (f.resetPosition_acts source x.histories)
  | resetVelocity source => exact rewritten_resets (f.resetVelocity_acts source x.histories)
  | resetHeight source => exact rewritten_resets (f.resetHeight_acts source x.histories)
  | resetHeading field => exact rewritten_resets (f.resetHeading_acts field x.histories)
  | turnTo | stop | seedVelocity | seedOrigin => exact ⟨_, _, _, _, _, _, rfl⟩

theorem rewritten_update (f : GatedFilter α) (a : Arbiter α) (clock : Clock)
    (samples : Histories α) : Rewritten f (a.update clock samples f).core := by
  have settled := kept_of_acts (P := Rewritten f)
    (Arbiter.settled_acts (a.context clock samples) a.standing f)
    (fun first act => first.trans (rewritten_coreAct act)) (.refl f)
  rw [Arbiter.update_eq]
  exact settled.trans ⟨_, _, _, _, _, _, rfl⟩

end Cycles

end GatedFilter

end NavArbiter

/-
# What each controller owns

Five controllers write the standing of the arbitration one after another.  `Cell` names the parts
it is made of, and each controller has a few of them to itself or in common with others; the rest
it leaves as they were, whatever it finds and however the core answers:

    controller             status                                         health
    vision                 height, position and yaw of vision,            -
                           yaw alignment, magnetometer mode, declination
    flow                   flow, yaw alignment                            fusion of flow
    satellite navigation   satellite navigation, yaw alignment            failure of it, position
                                                                          and velocity clocks
    height                 height                                         marks of height sources,
                                                                          height and inertial fault
                                                                          clocks
    magnetometer           yaw alignment, magnetometer mode,              -
                           declination, wind

Besides, flow and satellite navigation write the anchor and height the ground.

What a controller decides, it decides on the status from before the cycle.  Of the working status,
which the controllers before it have written, vision reads nothing, flow and satellite navigation
read yaw alignment and height reads the height source.  `Isolated` states this of two runs: where
two standings differ in nothing but the rest of the status, events, requests, core and health come
out the same.
-/
import NavArbiter.Proofs.FusionTimes
import NavArbiter.Proofs.Stages

namespace NavArbiter

variable {α C : Type}

/-! ## Cells -/

/-- A part of the standing.  What observes yaw counts as two, vision and the magnetometer mode. -/
inductive Cell where
  | tiltAligned
  | yawAligned
  | gps
  | flow
  | visionPosition
  | inAir
  | windValid
  | height
  | visionYaw
  | magMode
  | declination
  | fusion (s : Sensor)
  | failure (s : Sensor)
  | mark (s : Sensor)
  | clock (k : FusionClock)
  | anchor
  | ground
  deriving DecidableEq

/-- Two standings hold the same in a cell. -/
def Cell.Same (k : Cell) (s s' : Standing α) : Prop :=
  match k with
  | tiltAligned => s'.status.tiltAligned = s.status.tiltAligned
  | yawAligned => s'.status.yawAligned = s.status.yawAligned
  | gps => s'.status.gps = s.status.gps
  | flow => s'.status.flow = s.status.flow
  | visionPosition => s'.status.visionPosition = s.status.visionPosition
  | inAir => s'.status.inAir = s.status.inAir
  | windValid => s'.status.windValid = s.status.windValid
  | height => s'.status.height = s.status.height
  | visionYaw => s'.status.visionYaw = s.status.visionYaw
  | magMode => s'.status.magMode = s.status.magMode
  | declination => s'.status.declination = s.status.declination
  | fusion k => (s'.health.sensor k).lastFusion = (s.health.sensor k).lastFusion
  | failure k => (s'.health.sensor k).lastFailure = (s.health.sensor k).lastFailure
  | mark k => s'.health.isFaulty k = s.health.isFaulty k
  | clock k => s'.health.clock k = s.health.clock k
  | anchor => s'.anchor = s.anchor
  | ground => s'.ground = s.ground

theorem Sensor.exists_index (i : Fin 7) : ∃ k : Sensor, k.index = i := by
  have listed : ∀ i : Fin 7, (Sensor.all.get i).index = i := by decide
  exact ⟨_, listed i⟩

/-- A yaw observer is known by whether it is vision and by the magnetometer mode. -/
theorem Status.yaw_eq {t t' : Status} (hv : t'.visionYaw = t.visionYaw)
    (hm : t'.magMode = t.magMode) : t'.yaw = t.yaw := by
  unfold Status.visionYaw at hv
  unfold Status.magMode at hm
  cases h : t.yaw <;> cases h' : t'.yaw <;> simp_all

theorem Health.eq_of_sensor {h h' : Health} (hs : ∀ k, h'.sensor k = h.sensor k)
    (hc : ∀ k, h'.clock k = h.clock k) : h' = h := by
  have sensors : h'.sensors = h.sensors := by
    refine Vector.ext fun i hi => ?_
    obtain ⟨k, hk⟩ := Sensor.exists_index ⟨i, hi⟩
    have same := hs k
    simp only [Health.sensor, hk] at same
    exact same
  cases h
  cases h'
  have position := hc .position
  have velocity := hc .velocity
  have height := hc .height
  have terrain := hc .terrain
  have inertialFault := hc .inertialFault
  simp_all [Health.clock]

/-- The cell is a part of the health. -/
def Cell.inHealth : Cell → Bool
  | fusion _ | failure _ | mark _ | clock _ => true
  | _ => false

theorem Health.eq_of_same {s s' : Standing α} (h : ∀ k : Cell, k.inHealth = true → k.Same s s') :
    s'.health = s.health := by
  refine Health.eq_of_sensor (fun k => ?_) fun k => h (.clock k) rfl
  have fusion := h (.fusion k) rfl
  have failure := h (.failure k) rfl
  have mark := h (.mark k) rfl
  cases hs : s.health.sensor k
  cases hs' : s'.health.sensor k
  simp_all [Cell.Same, Health.isFaulty]

/-- The cells are all there is to a standing. -/
theorem Standing.eq_of_same {s s' : Standing α} (h : ∀ k : Cell, k.Same s s') : s' = s := by
  have status : s'.status = s.status := by
    have yaw := Status.yaw_eq (h .visionYaw) (h .magMode)
    have tiltAligned := h .tiltAligned
    have yawAligned := h .yawAligned
    have gps := h .gps
    have flow := h .flow
    have visionPosition := h .visionPosition
    have inAir := h .inAir
    have windValid := h .windValid
    have height := h .height
    have declination := h .declination
    cases hs : s.status
    cases hs' : s'.status
    simp_all [Cell.Same]
  have health : s'.health = s.health := Health.eq_of_same fun k _ => h k
  have anchor := h .anchor
  have ground := h .ground
  cases s
  cases s'
  simp_all [Cell.Same]

/-- Two standings hold the same in every cell but these. -/
def Standing.AgreeOutside (cells : List Cell) (s s' : Standing α) : Prop :=
  ∀ k : Cell, k ∉ cells → k.Same s s'

namespace Standing.AgreeOutside

variable {cells more : List Cell} {s s' s'' : Standing α}

theorem refl (cells : List Cell) (s : Standing α) : AgreeOutside cells s s := by
  intro k _
  cases k <;> rfl

theorem trans (h : AgreeOutside cells s s') (h' : AgreeOutside cells s' s'') :
    AgreeOutside cells s s'' := by
  intro k hk
  have first := h k hk
  have last := h' k hk
  cases k <;> exact Eq.trans last first

theorem mono (h : AgreeOutside cells s s') (hsub : cells ⊆ more) : AgreeOutside more s s' :=
  fun k hk => h k fun hc => hk (hsub hc)

/-- The health is the same if it has none of the cells. -/
theorem health_eq (h : AgreeOutside cells s s') (hc : ∀ k ∈ cells, k.inHealth = false) :
    s'.health = s.health := by
  refine Health.eq_of_same fun k hk => h k fun hm => ?_
  rw [hc k hm] at hk
  cases hk

/-- Outside no cell at all two standings agree only if they are one. -/
theorem eq_of_nil (h : AgreeOutside [] s s') : s' = s :=
  Standing.eq_of_same fun k => h k List.not_mem_nil

theorem setYawAligned (s : Standing α) (aligned : Bool) :
    AgreeOutside [.yawAligned] s (s.setYawAligned aligned) := by
  intro k hk
  cases k with
  | yawAligned => exact absurd (List.mem_singleton_self _) hk
  | _ => rfl

/-- What is rewritten of a sensor is its last fusion, its last failure or its mark. -/
theorem modifySensor (s : Standing α) (k : Sensor) {f : SensorHealth → SensorHealth}
    (hfusion : (f (s.health.sensor k)).lastFusion = (s.health.sensor k).lastFusion ∨
      .fusion k ∈ cells)
    (hfailure : (f (s.health.sensor k)).lastFailure = (s.health.sensor k).lastFailure ∨
      .failure k ∈ cells)
    (hmark : (f (s.health.sensor k)).faulty = (s.health.sensor k).faulty ∨ .mark k ∈ cells) :
    AgreeOutside cells s (s.mapHealth fun h => h.modifySensor k f) := by
  have written : ∀ j, ((s.mapHealth fun h => h.modifySensor k f).health.sensor j) =
      if k = j then f (s.health.sensor k) else s.health.sensor j :=
    fun j => Health.sensor_modifySensor _ k j f
  intro l hl
  cases l with
  | fusion j =>
      rw [Cell.Same, written]
      split
      · next hj =>
        subst hj
        exact hfusion.resolve_right hl
      · rfl
  | failure j =>
      rw [Cell.Same, written]
      split
      · next hj =>
        subst hj
        exact hfailure.resolve_right hl
      · rfl
  | mark j =>
      rw [Cell.Same, Health.isFaulty, written]
      split
      · next hj =>
        subst hj
        exact hmark.resolve_right hl
      · rfl
  | clock j => exact Health.clock_modifySensor _ k f j
  | _ => rfl

theorem recordFusion (s : Standing α) (k : Sensor) (now : Time) :
    AgreeOutside [.fusion k] s (s.mapHealth fun h => h.recordFusion k now) :=
  modifySensor s k (Or.inr (List.mem_singleton_self _)) (Or.inl rfl) (Or.inl rfl)

theorem recordFailure (s : Standing α) (k : Sensor) (now : Time) :
    AgreeOutside [.failure k] s (s.mapHealth fun h => h.recordFailure k now) :=
  modifySensor s k (Or.inl rfl) (Or.inr (List.mem_singleton_self _)) (Or.inl rfl)

theorem setFaulty (s : Standing α) (k : Sensor) (faulty : Bool) :
    AgreeOutside [.mark k] s (s.mapHealth fun h => h.setFaulty k faulty) :=
  modifySensor s k (Or.inl rfl) (Or.inl rfl) (Or.inr (List.mem_singleton_self _))

theorem setClock (s : Standing α) (k : FusionClock) (t : Option Time) :
    AgreeOutside [.clock k] s (s.mapHealth fun h => h.setClock k t) := by
  have written : ∀ j, (s.mapHealth fun h => h.setClock k t).health.sensor j =
      s.health.sensor j := Health.sensor_setClock _ k t
  intro l hl
  cases l with
  | clock j =>
      have hne : k ≠ j := fun h => hl (by rw [h]; exact List.mem_singleton_self _)
      exact (Health.clock_setClock _ k j t).trans (if_neg hne)
  | fusion j | failure j => rw [Cell.Same, written]
  | mark j => rw [Cell.Same, Health.isFaulty, Health.isFaulty, written]
  | _ => rfl

theorem restartHorizontal (s : Standing α) (now : Time) :
    AgreeOutside [.clock .position, .clock .velocity] s
      (s.mapHealth fun h => h.restartHorizontal now) := by
  have position : AgreeOutside [.clock .position, .clock .velocity] s
      (s.mapHealth fun h => h.setClock .position (some now)) :=
    (setClock s .position (some now)).mono (by decide)
  exact position.trans ((setClock _ .velocity (some now)).mono (by decide))

/-- A height reset writes the marks of the source it leaves and of the one it leads to. -/
theorem healthAfterReset (s : Standing α) (source target : HeightSource) (now : Time) :
    AgreeOutside [.mark source.sensor, .mark target.sensor, .clock .height] s
      (s.mapHealth fun h => Height.healthAfterReset h source target now) := by
  let marked := s.mapHealth fun h =>
    if target = source then h else h.setFaulty source.sensor true
  have left : AgreeOutside [.mark source.sensor, .mark target.sensor, .clock .height] s
      marked := by
    by_cases h : target = source
    · have same : marked = s := by simp only [marked, if_pos h, Standing.mapHealth]
      rw [same]
      exact refl _ s
    · have same : marked = s.mapHealth fun h => h.setFaulty source.sensor true := by
        simp only [marked, if_neg h]
      rw [same]
      exact (setFaulty s source.sensor true).mono (by simp)
  have reached : AgreeOutside [.mark source.sensor, .mark target.sensor, .clock .height] marked
      (marked.mapHealth fun h => h.setFaulty target.sensor false) :=
    (setFaulty marked target.sensor false).mono (by simp)
  exact (left.trans reached).trans ((setClock _ .height (some now)).mono (by simp))

end Standing.AgreeOutside

/-! ## The controllers -/

/-- The cells that a stage of the cycle may write. -/
def Stage.owned : Stage → List Cell
  | .tilt => [.tiltAligned, .yawAligned]
  | .vision => [.height, .visionPosition, .yawAligned, .visionYaw, .magMode, .declination]
  | .flow => [.flow, .yawAligned, .fusion .flow, .anchor]
  | .gps => [.gps, .yawAligned, .failure .gps, .clock .position, .clock .velocity, .anchor]
  | .height => [.height, .mark .baro, .mark .gps, .mark .range, .mark .vision, .clock .height,
      .clock .inertialFault, .ground]
  | .mag => [.yawAligned, .magMode, .declination, .windValid]

theorem HeightSource.mark_mem_owned (k : HeightSource) : .mark k.sensor ∈ Stage.height.owned := by
  cases k <;> decide

section Controllers

variable [Scalar α] [Estimator α C] (x : Context α) (s : Standing α) (c : C)

open Standing (AgreeOutside)

theorem vision_owned : AgreeOutside Stage.vision.owned s (Vision.control x s c).standing := by
  have position : AgreeOutside Stage.vision.owned s (Vision.takePosition x s c).standing := by
    simp only [Vision.takePosition]
    split
    · split
      · intro k hk
        cases k with
        | height | visionPosition => exact absurd (by decide) hk
        | _ => rfl
      · exact .refl _ s
    · exact .refl _ s
  have yaw : ∀ (s : Standing α) (c : C),
      AgreeOutside Stage.vision.owned s (Vision.takeYaw x s c).standing := by
    intro s c
    simp only [Vision.takeYaw]
    split
    · split
      · exact .refl _ s
      · intro k hk
        cases k with
        | yawAligned | visionYaw | magMode | declination => exact absurd (by decide) hk
        | _ => rfl
    · exact .refl _ s
  exact position.trans (yaw _ _)

omit [Scalar α] in
/-- An attempt at yaw writes yaw alignment. -/
theorem ofMag_owned {cells : List Cell} (h : .yawAligned ∈ cells) :
    AgreeOutside cells s (Alignment.ofMag x s c).standing := by
  obtain ⟨aligned, attempt⟩ := ofMag_standing x s c
  rw [attempt]
  exact (Standing.AgreeOutside.setYawAligned s aligned).mono
    (List.cons_subset.mpr ⟨h, List.nil_subset _⟩)

theorem flow_owned : AgreeOutside Stage.flow.owned s (Flow.control x s c).standing := by
  have switched : ∀ (s : Standing α) (flow : Bool),
      AgreeOutside Stage.flow.owned s (s.mapStatus fun t => { t with flow := flow }) := by
    intro s flow k hk
    cases k with
    | flow => exact absurd (by decide) hk
    | _ => rfl
  have started : AgreeOutside Stage.flow.owned s (Flow.start x s c).standing := by
    have attempt : AgreeOutside Stage.flow.owned s (Alignment.ofMag x s c).standing :=
      ofMag_owned x s c (by decide)
    simp only [Flow.start]
    split
    · have fused := Standing.AgreeOutside.recordFusion
        ((Alignment.ofMag x s c).standing.mapStatus fun t => { t with flow := true }) .flow
        x.clock.now
      exact (attempt.trans (switched _ true)).trans (fused.mono (by decide))
    · exact attempt
  simp only [Flow.control]
  split
  · split
    · exact started
    · split
      · intro k hk
        cases k with
        | flow | anchor => exact absurd (by decide) hk
        | _ => rfl
      · exact .refl _ s
  · split
    · exact switched s false
    · exact .refl _ s

theorem gps_owned : AgreeOutside Stage.gps.owned s (Gps.control x s c).standing := by
  have switched : ∀ (s : Standing α) (gps : Bool),
      AgreeOutside Stage.gps.owned s (s.mapStatus fun t => { t with gps := gps }) := by
    intro s gps k hk
    cases k with
    | gps => exact absurd (by decide) hk
    | _ => rfl
  have restarted : ∀ s : Standing α, AgreeOutside Stage.gps.owned s
      (s.mapHealth fun h => h.restartHorizontal x.clock.now) := fun s =>
    (Standing.AgreeOutside.restartHorizontal s x.clock.now).mono (by decide)
  have activated : ∀ (s : Standing α) (c : C),
      AgreeOutside Stage.gps.owned s (Gps.activate x s c).standing := by
    intro s c
    simp only [Gps.activate]
    split
    · exact switched s true
    · split
      · exact (switched s true).trans (restarted _)
      · exact (Standing.AgreeOutside.recordFailure s .gps x.clock.now).mono (by decide)
  have started : AgreeOutside Stage.gps.owned s (Gps.start x s c).standing := by
    have attempt : AgreeOutside Stage.gps.owned s (Alignment.ofMag x s c).standing :=
      ofMag_owned x s c (by decide)
    simp only [Gps.start]
    split
    · exact attempt.trans (activated _ _)
    · exact attempt
  simp only [Gps.control]
  split
  · split
    · split
      · split
        · simp only [Gps.recover]
          split
          · exact restarted s
          · exact .refl _ s
        · intro k hk
          cases k with
          | gps | anchor => exact absurd (by decide) hk
          | _ => rfl
      · exact .refl _ s
    · split
      · exact started
      · exact .refl _ s
  · split
    · exact switched s false
    · exact .refl _ s

theorem height_owned : AgreeOutside Stage.height.owned s (Height.control x s c).standing := by
  have selected : ∀ (s : Standing α) (height : HeightSource),
      AgreeOutside Stage.height.owned s (s.mapStatus fun t => { t with height := height }) := by
    intro s height k hk
    cases k with
    | height => exact absurd (by decide) hk
    | _ => rfl
  have inertial : AgreeOutside Stage.height.owned s (Height.watchInertial x s c).standing := by
    simp only [Height.watchInertial]
    split
    · exact (Standing.AgreeOutside.setClock s .inertialFault (some x.clock.now)).mono (by decide)
    · exact .refl _ s
  have timeout : ∀ (s : Standing α) (c : C),
      AgreeOutside Stage.height.owned s (Height.watchTimeout x s c).standing := by
    intro s c
    simp only [Height.watchTimeout, Height.resetTo]
    split
    · split
      · exact .refl _ s
      · next target _ =>
        split
        · have marked := Standing.AgreeOutside.healthAfterReset
            (s.mapStatus fun t => { t with height := target }) x.before.height target x.clock.now
          refine (selected s target).trans (marked.mono ?_)
          have source := x.before.height.mark_mem_owned
          have target := target.mark_mem_owned
          simp only [List.cons_subset, List.nil_subset, and_true]
          exact ⟨source, target, by decide⟩
        · exact .refl _ s
    · exact .refl _ s
  have preferred : ∀ (s : Standing α) (c : C),
      AgreeOutside Stage.height.owned s (Height.selectPreferred x s c).standing := by
    intro s c
    simp only [Height.selectPreferred]
    split
    · exact selected s _
    · exact .refl _ s
  have ground : ∀ (s : Standing α) (c : C),
      AgreeOutside Stage.height.owned s (Height.noteGround x s c).standing := by
    intro s c
    simp only [Height.noteGround]
    split
    · exact .refl _ s
    · intro k hk
      cases k with
      | ground => exact absurd (by decide) hk
      | _ => rfl
  exact ((inertial.trans (timeout _ _)).trans (preferred _ _)).trans (ground _ _)

omit [Scalar α] in
/-- While vision does not observe yaw, what the magnetometer controller decides leaves it so. -/
theorem decideStatus_owned (mode : MagMode) (h : s.status.visionYaw = false) :
    AgreeOutside Stage.mag.owned s { s with status := Mag.decideStatus x mode s } := by
  have yaw := decideStatus_yaw x mode h
  obtain ⟨observer, declination, wind, frame⟩ := decideStatus_frame x mode s
  intro k hk
  cases k with
  | magMode | declination | windValid => exact absurd (by decide) hk
  | visionYaw =>
      show (Mag.decideStatus x mode s).visionYaw = s.status.visionYaw
      rw [Status.visionYaw, yaw, h]
      rfl
  | tiltAligned | yawAligned | gps | flow | visionPosition | inAir | height =>
      simp only [Cell.Same, frame]
  | _ => rfl

omit [Scalar α] in
/-- The way into a mode writes yaw alignment. -/
theorem enter_owned (mode : MagMode) :
    AgreeOutside [.yawAligned] s (Mag.enter x mode s c).standing := by
  simp only [Mag.enter]
  split
  · exact .setYawAligned s _
  · exact .refl _ s

theorem mag_owned : AgreeOutside Stage.mag.owned s (Mag.control x s c).standing := by
  show AgreeOutside Stage.mag.owned s (Mag.settle x s c).standing
  simp only [Mag.settle]
  split
  · exact .refl _ s
  · next hv =>
    have entered := enter_owned x s c (Mag.target x s c)
    have unobserved := (entered .visionYaw (by decide)).trans (Bool.eq_false_iff.mpr hv)
    exact (entered.mono (by decide)).trans (decideStatus_owned x _ _ unobserved)

theorem tilt_owned : AgreeOutside Stage.tilt.owned s (Arbiter.watchTilt x s c).standing := by
  simp only [Arbiter.watchTilt]
  split
  · intro k hk
    cases k with
    | tiltAligned | yawAligned => exact absurd (by decide) hk
    | _ => rfl
  · exact .refl _ s

/-- Each stage of the cycle writes what it owns. -/
theorem run_owned (g : Stage) : AgreeOutside g.owned s (g.run x s c).standing := by
  cases g with
  | tilt => exact tilt_owned x s c
  | vision => exact vision_owned x s c
  | flow => exact flow_owned x s c
  | gps => exact gps_owned x s c
  | height => exact height_owned x s c
  | mag => exact mag_owned x s c

end Controllers

/-! ## Two runs -/

/-- Two standings that differ at most in their status, from which the same is read. -/
structure Standing.Alike {β : Type} (read : Status → β) (s s' : Standing α) : Prop where
  health : s'.health = s.health
  anchor : s'.anchor = s.anchor
  ground : s'.ground = s.ground
  status : read s'.status = read s.status

/-- Two outcomes with the same events, requests and core that leave standings alike. -/
structure Outcome.Alike {β : Type} (read : Status → β) (o o' : Outcome α C) : Prop where
  events : o'.events = o.events
  requests : o'.requests = o.requests
  core : o'.core = o.core
  standing : o.standing.Alike read o'.standing

/-- A controller knows no more of the working status than is read from it here. -/
def Isolated {β : Type} (read : Status → β) (f : Standing α → C → Outcome α C) : Prop :=
  ∀ (s s' : Standing α) (c : C), s.Alike read s' → (f s c).Alike read (f s' c)

section Alike

variable {β : Type} {read : Status → β} {s s' : Standing α}

theorem Standing.Alike.mapStatus (h : s.Alike read s') {f : Status → Status}
    (hf : read s'.status = read s.status → read (f s'.status) = read (f s.status)) :
    (s.mapStatus f).Alike read (s'.mapStatus f) :=
  ⟨h.health, h.anchor, h.ground, hf h.status⟩

theorem Standing.Alike.mapHealth (h : s.Alike read s') (f : Health → Health) :
    (s.mapHealth f).Alike read (s'.mapHealth f) :=
  ⟨congrArg f h.health, h.anchor, h.ground, h.status⟩

theorem Standing.Alike.held (h : s.Alike read s') (anchor : Vec2 α) :
    Standing.Alike read { s with anchor := anchor } { s' with anchor := anchor } :=
  ⟨h.health, rfl, h.ground, h.status⟩

theorem Standing.Alike.noted (h : s.Alike read s') (ground : α) :
    Standing.Alike read { s with ground := ground } { s' with ground := ground } :=
  ⟨h.health, h.anchor, rfl, h.status⟩

/-- The same decision taken from two standings alike. -/
theorem Outcome.Alike.of_standing (h : s.Alike read s') (core : C) (events : List (Event α))
    (requests : List Request) :
    Outcome.Alike read ⟨s, core, events, requests⟩ ⟨s', core, events, requests⟩ :=
  ⟨rfl, rfl, rfl, h⟩

theorem Outcome.Alike.andThen {o o' : Outcome α C} {f : Standing α → C → Outcome α C}
    (h : o.Alike read o') (hf : Isolated read f) : (o.andThen f).Alike read (o'.andThen f) := by
  have next : (f o.standing o.core).Alike read (f o'.standing o'.core) := by
    rw [h.core]
    exact hf _ _ _ h.standing
  constructor
  · exact congrArg₂ (· ++ ·) h.events next.events
  · exact congrArg₂ (· ++ ·) h.requests next.requests
  · exact next.core
  · exact next.standing

theorem Isolated.andThen {f g : Standing α → C → Outcome α C} (hf : Isolated read f)
    (hg : Isolated read g) : Isolated read fun s c => (f s c).andThen g :=
  fun s s' c h => (hf s s' c h).andThen hg

end Alike

section Controllers

variable [Scalar α] [Estimator α C] (x : Context α)

theorem vision_isolated : Isolated (fun _ => ()) (Vision.control (C := C) x) := by
  have position : Isolated (fun _ => ()) (Vision.takePosition (C := C) x) := by
    intro s s' c h
    simp only [Vision.takePosition]
    split
    · split
      · exact .of_standing (h.mapStatus id) ..
      · exact .of_standing h ..
    · exact .of_standing h ..
  have yaw : Isolated (fun _ => ()) (Vision.takeYaw (C := C) x) := by
    intro s s' c h
    simp only [Vision.takeYaw]
    split
    · split
      · exact .of_standing h ..
      · exact .of_standing (h.mapStatus id) ..
    · exact .of_standing h ..
  exact position.andThen yaw

omit [Scalar α] in
theorem ofMag_isolated {s s' : Standing α} (c : C) (h : s.Alike Status.yawAligned s') :
    let a := Alignment.ofMag x s c
    ∃ t, a.standing.Alike Status.yawAligned t ∧
      Alignment.ofMag x s' c = ⟨t, a.core, a.requests⟩ := by
  have yaw : s'.status.yawAligned = s.status.yawAligned := h.status
  simp only [Alignment.ofMag, yaw]
  split
  · exact ⟨s', h, rfl⟩
  · let granted := (Estimator.askHeadingFromMag c x.histories).granted
    have attempted : (s.setYawAligned granted).Alike Status.yawAligned
        (s'.setYawAligned granted) := ⟨h.health, h.anchor, h.ground, rfl⟩
    exact ⟨_, attempted, rfl⟩

theorem flow_isolated : Isolated Status.yawAligned (Flow.control (C := C) x) := by
  have started : Isolated Status.yawAligned (Flow.start (C := C) x) := by
    intro s s' c h
    obtain ⟨t, alike, attempt⟩ := ofMag_isolated x c h
    have yaw : t.status.yawAligned = (Alignment.ofMag x s c).standing.status.yawAligned :=
      alike.status
    simp only [Flow.start, attempt, yaw]
    split
    · exact .of_standing ((alike.mapStatus id).mapHealth _) ..
    · exact .of_standing alike ..
  intro s s' c h
  have due : Flow.wantsStart x s' = Flow.wantsStart x s := by
    simp only [Flow.wantsStart, h.health]
  have lost : Flow.isLost x s' = Flow.isLost x s := by
    simp only [Flow.isLost, h.health]
  simp only [Flow.control, due, lost]
  split
  · split
    · exact started s s' c h
    · split
      · exact .of_standing ((h.mapStatus id).held _) ..
      · exact .of_standing h ..
  · split
    · exact .of_standing (h.mapStatus id) ..
    · exact .of_standing h ..

theorem gps_isolated : Isolated Status.yawAligned (Gps.control (C := C) x) := by
  have activated : Isolated Status.yawAligned (Gps.activate (C := C) x) := by
    intro s s' c h
    simp only [Gps.activate]
    split
    · exact .of_standing (h.mapStatus id) ..
    · split
      · exact .of_standing ((h.mapStatus id).mapHealth _) ..
      · exact .of_standing (h.mapHealth _) ..
  have started : Isolated Status.yawAligned (Gps.start (C := C) x) := by
    intro s s' c h
    obtain ⟨t, alike, attempt⟩ := ofMag_isolated x c h
    have yaw : t.status.yawAligned = (Alignment.ofMag x s c).standing.status.yawAligned :=
      alike.status
    simp only [Gps.start, attempt, yaw]
    split
    · exact (Outcome.Alike.of_standing alike ..).andThen activated
    · exact .of_standing alike ..
  intro s s' c h
  have due : Gps.wantsStart x s' c = Gps.wantsStart x s c := by
    simp only [Gps.wantsStart, h.health]
  have expired : Gps.timedOut x s' = Gps.timedOut x s := by
    simp only [Gps.timedOut, h.health]
  simp only [Gps.control, due, expired]
  split
  · split
    · split
      · split
        · simp only [Gps.recover]
          split
          · exact .of_standing (h.mapHealth _) ..
          · exact .of_standing h ..
        · exact .of_standing ((h.mapStatus id).held _) ..
      · exact .of_standing h ..
    · split
      · exact started s s' c h
      · exact .of_standing h ..
  · split
    · exact .of_standing (h.mapStatus id) ..
    · exact .of_standing h ..

theorem height_isolated : Isolated Status.height (Height.control (C := C) x) := by
  have inertial : Isolated Status.height (Height.watchInertial (C := C) x) := by
    intro s s' c h
    simp only [Height.watchInertial]
    split
    · exact .of_standing (h.mapHealth _) ..
    · exact .of_standing h ..
  have timeout : Isolated Status.height (Height.watchTimeout (C := C) x) := by
    intro s s' c h
    have expired : Height.timedOut x s' c = Height.timedOut x s c := by
      simp only [Height.timedOut, h.health]
    have facts : Height.facts x s' c = Height.facts x s c := by
      simp only [Height.facts, h.health]
    simp only [Height.watchTimeout, Height.resetTo, expired, facts]
    split
    · split
      · exact .of_standing h ..
      · split
        · exact .of_standing ((h.mapStatus fun _ => rfl).mapHealth _) ..
        · exact .of_standing h ..
    · exact .of_standing h ..
  have preferred : Isolated Status.height (Height.selectPreferred (C := C) x) := by
    intro s s' c h
    have height : s'.status.height = s.status.height := h.status
    have sound : Height.sound x s' = Height.sound x s := by
      funext source
      simp only [Height.sound, h.health]
    simp only [Height.selectPreferred, height, sound]
    split
    · exact .of_standing (h.mapStatus fun _ => rfl) ..
    · exact .of_standing h ..
  have ground : Isolated Status.height (Height.noteGround (C := C) x) := by
    intro s s' c h
    simp only [Height.noteGround]
    split
    · exact .of_standing h ..
    · exact .of_standing (h.noted _) ..
  exact ((inertial.andThen timeout).andThen preferred).andThen ground

end Controllers

/-- Whatever the context, the standing and the core: each controller leaves the cells that it does
not own as they were, and vision and the magnetometer leave all of the health; and of the working
status vision reads nothing, flow and satellite navigation read yaw alignment, and height reads the
height source.  Nothing escapes the cells: standings that hold the same in each are one. -/
theorem controllers_isolated [Scalar α] [Estimator α C] (x : Context α) (s : Standing α) (c : C) :
    (∀ s', s.AgreeOutside [] s' → s' = s) ∧
    (s.AgreeOutside Stage.vision.owned (Vision.control x s c).standing ∧
      (Vision.control x s c).standing.health = s.health) ∧
    s.AgreeOutside Stage.flow.owned (Flow.control x s c).standing ∧
    s.AgreeOutside Stage.gps.owned (Gps.control x s c).standing ∧
    s.AgreeOutside Stage.height.owned (Height.control x s c).standing ∧
    (s.AgreeOutside Stage.mag.owned (Mag.control x s c).standing ∧
      (Mag.control x s c).standing.health = s.health) ∧
    Isolated (fun _ => ()) (Vision.control (C := C) x) ∧
    Isolated Status.yawAligned (Flow.control (C := C) x) ∧
    Isolated Status.yawAligned (Gps.control (C := C) x) ∧
    Isolated Status.height (Height.control (C := C) x) := by
  have vision := vision_owned x s c
  have mag := mag_owned x s c
  exact ⟨fun _ => Standing.AgreeOutside.eq_of_nil, ⟨vision, vision.health_eq (by decide)⟩,
    flow_owned x s c, gps_owned x s c, height_owned x s c, ⟨mag, mag.health_eq (by decide)⟩,
    vision_isolated x, flow_isolated x, gps_isolated x, height_isolated x⟩

end NavArbiter

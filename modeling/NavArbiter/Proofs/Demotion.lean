/-
# Demoted height sources stay demoted

A fault mark says that height was reset away from a source.  It is set and cleared by height resets
and by nothing else, while a height source is selected in three places:

    selection            the source selected
    vision starts        vision, marked or not
    a height reset       the one reset to, which the reset clears of its mark
    the preferred one    without a mark, or vision

So whichever source but vision is selected carries no mark (`Standing.HeightSound`), a source left
behind stays marked until height is reset to it, and until then it cannot be selected.  Range has no
way back at all, since height is reset to range only from range.
-/
import NavArbiter.Proofs.FusionTimes
import NavArbiter.Proofs.HeightTilt
import NavArbiter.Proofs.Stages

namespace NavArbiter

theorem HeightSource.sensor_inj {k l : HeightSource} : k.sensor = l.sensor ↔ k = l := by
  constructor
  · intro h
    cases k <;> cases l <;> first | rfl | cases h
  · rintro rfl
    rfl

/-! ## Who writes fault marks -/

namespace Health

theorem isFaulty_modifySensor (h : Health) (s t : Sensor) {f : SensorHealth → SensorHealth}
    (hf : (f (h.sensor s)).faulty = (h.sensor s).faulty) :
    (h.modifySensor s f).isFaulty t = h.isFaulty t := by
  rw [isFaulty, sensor_modifySensor]
  split
  · next hst =>
    subst hst
    exact hf
  · rfl

theorem isFaulty_setFaulty (h : Health) (s t : Sensor) (faulty : Bool) :
    (h.setFaulty s faulty).isFaulty t = if s = t then faulty else h.isFaulty t := by
  rw [isFaulty, setFaulty, sensor_modifySensor]
  split
  · rfl
  · rfl

/-- A height reset clears the source it leads to and marks another one that it leaves. -/
theorem isFaulty_healthAfterReset (h : Health) (source target k : HeightSource) (now : Time) :
    (Height.healthAfterReset h source target now).isFaulty k.sensor =
      if k = target then false else if k = source then true else h.isFaulty k.sensor := by
  let marked := if target = source then h else h.setFaulty source.sensor true
  show (marked.setFaulty target.sensor false).isFaulty k.sensor = _
  rw [isFaulty_setFaulty]
  by_cases ht : k = target
  · rw [if_pos ht, if_pos (HeightSource.sensor_inj.mpr ht.symm)]
  · rw [if_neg ht, if_neg fun e => ht (HeightSource.sensor_inj.mp e).symm]
    by_cases hts : target = source
    · rw [if_neg (hts ▸ ht)]
      show Health.isFaulty marked k.sensor = _
      rw [show marked = h from if_pos hts]
    · show Health.isFaulty marked k.sensor = _
      rw [show marked = h.setFaulty source.sensor true from if_neg hts, isFaulty_setFaulty]
      simp only [HeightSource.sensor_inj, eq_comm]

theorem OnlyFused.isFaulty {now : Time} {h h' : Health} (a : OnlyFused now h h') (s : Sensor) :
    h'.isFaulty s = h.isFaulty s := by
  rw [Health.isFaulty, Health.isFaulty]
  rcases a.sensor s with ha | ha <;> rw [ha]

end Health

/-- The height source in use is vision, or carries no fault mark. -/
def Standing.HeightSound {α : Type} (s : Standing α) : Prop :=
  s.status.height = .vision ∨ s.health.isFaulty s.status.height.sensor = false

theorem Standing.HeightSound.congr {α : Type} {s s' : Standing α} (h : s.HeightSound)
    (hh : s'.status.height = s.status.height)
    (hf : ∀ k, s'.health.isFaulty k = s.health.isFaulty k) : s'.HeightSound := by
  rw [HeightSound, hh, hf]
  exact h

theorem Standing.HeightSound.ne_of_marked {α : Type} {s : Standing α} (h : s.HeightSound)
    {k : HeightSource} (hv : k ≠ .vision) (hk : s.health.isFaulty k.sensor = true) :
    s.status.height ≠ k := by
  rintro rfl
  rcases h with h | h
  · exact hv h
  · rw [h] at hk
    cases hk

/-! ## One cycle -/

section Decision

variable {α C : Type} [Scalar α] [Estimator α C] {x : Context α} {s : Standing α} {c : C}
  {o : Outcome α C} {k source target : HeightSource}

/-- A decision leaves the fault marks alone, or resets height and announces it. -/
theorem marks_decision (h : Decision x s c o) :
    (∀ t, o.standing.health.isFaulty t = s.health.isFaulty t) ∨
      ∃ target, o.events = [.heightReset x.before.height target] ∧
        o.standing.status.height = target ∧
        o.standing.health =
          Height.healthAfterReset s.health x.before.height target x.clock.now := by
  cases h with
  | startFlow => exact Or.inl fun _ => Health.isFaulty_modifySensor _ _ _ rfl
  | failGps => exact Or.inl fun _ => Health.isFaulty_modifySensor _ _ _ rfl
  | resetHeight _ target => exact Or.inr ⟨target, rfl, rfl, rfl⟩
  | _ => exact Or.inl fun _ => rfl

theorem heightSound_decision (hs : s.HeightSound) (h : Decision x s c o) :
    o.standing.HeightSound := by
  rcases marks_decision h with hmarks | ⟨target, -, hheight, hhealth⟩
  · cases h with
    | startVisionPosition => exact Or.inl rfl
    | selectPreferred _ _ hsound _ =>
        show x.settings.preferredHeight = .vision ∨ _
        cases hp : x.settings.preferredHeight with
        | vision => exact Or.inl rfl
        | baro =>
            rw [hp, Height.sound, Bool.not_eq_true'] at hsound
            exact Or.inr hsound
        | gps | range =>
            rw [hp, Height.sound, Bool.and_eq_true, Bool.not_eq_true'] at hsound
            exact Or.inr hsound.2
    | resetHeight _ target =>
        refine Or.inr ?_
        exact (Health.isFaulty_healthAfterReset _ _ target target _).trans (if_pos rfl)
    | settleMag | enterThreeAxis => exact hs.congr (decideStatus_height _ _ _) hmarks
    | _ => exact hs.congr rfl hmarks
  · refine Or.inr ?_
    rw [hheight, hhealth, Health.isFaulty_healthAfterReset, if_pos rfl]

/-- A mark is cleared by a height reset to its source only. -/
theorem marked_decision (h : Decision x s c o) (hk : s.health.isFaulty k.sensor = true) :
    o.standing.health.isFaulty k.sensor = true ∨
      .heightReset x.before.height k ∈ o.events := by
  rcases marks_decision h with hmarks | ⟨target, he, -, hhealth⟩
  · exact Or.inl ((hmarks _).trans hk)
  · by_cases hkt : k = target
    · subst hkt
      rw [he]
      exact Or.inr (List.mem_singleton_self _)
    · left
      rw [hhealth, Health.isFaulty_healthAfterReset, if_neg hkt]
      split
      · rfl
      · exact hk

/-- A height reset leaves the source in use before the cycle, and marks it if it leads elsewhere. -/
theorem demoted_decision (h : Decision x s c o) (he : .heightReset source target ∈ o.events) :
    source = x.before.height ∧
      (target ≠ source → o.standing.health.isFaulty source.sensor = true) := by
  rcases marks_decision h with hmarks | ⟨target', he', -, hhealth⟩
  · cases h with
    | resetHeight _ target' =>
        cases List.mem_singleton.mp he
        refine ⟨rfl, fun hne => ?_⟩
        have hm := Health.isFaulty_healthAfterReset s.health x.before.height target
          x.before.height x.clock.now
        rw [if_neg hne.symm, if_pos rfl] at hm
        exact hm
    | _ => simp at he
  · rw [he'] at he
    cases List.mem_singleton.mp he
    refine ⟨rfl, fun hne => ?_⟩
    rw [hhealth, Health.isFaulty_healthAfterReset, if_neg hne.symm, if_pos rfl]

/-! ## One reset in a cycle

What marks a source could be undone by a second reset in the same cycle.  There is none. -/

/-- Of the parts of the height controller only the watch over timeouts resets height. -/
theorem exists_watchTimeout_of_heightReset (x : Context α) (s : Standing α) (c : C) : ∃ s' c',
    ∀ source target, .heightReset source target ∈ (Height.control x s c).events →
      .heightReset source target ∈ (Height.watchTimeout x s' c' : Outcome α C).events := by
  obtain ⟨s', c', first, last, events, hfirst, hlast⟩ := height_events x s c
  refine ⟨s', c', fun source target he => ?_⟩
  have unsuspected : .heightReset source target ∉ first := by rcases hfirst with rfl | rfl <;> simp
  have unselected : .heightReset source target ∉ last := by rcases hlast with rfl | rfl <;> simp
  rw [events, List.mem_append, List.mem_append] at he
  exact (he.resolve_right unselected).resolve_left unsuspected

theorem heightReset_unique {source' target' : HeightSource}
    (h : .heightReset source target ∈ (Arbiter.settled x s c).events)
    (h' : .heightReset source' target' ∈ (Arbiter.settled x s c).events) : target = target' := by
  let found := Stage.height.upTo x s c
  obtain ⟨s₂, c₂, hreset⟩ := exists_watchTimeout_of_heightReset x found.standing found.core
  have h₂ := hreset source target ((mem_settled_iff (g := .height) rfl).mp h)
  have h₂' := hreset source' target' ((mem_settled_iff (g := .height) rfl).mp h')
  rcases watchTimeout_events x s₂ c₂ with hn | ⟨e, hn, -⟩
  · rw [hn] at h₂
    exact absurd h₂ List.not_mem_nil
  · rw [hn, List.mem_singleton] at h₂ h₂'
    cases h₂.trans h₂'.symm
    rfl

/-! ## The cycle -/

theorem heightSound_settled (x : Context α) (c : C) (hs : s.HeightSound) :
    (Arbiter.settled x s c).standing.HeightSound :=
  (Arbiter.settled_decisions x s c).keep (P := fun o => o.standing.HeightSound) hs
    fun _ p h hd => heightSound_decision (o := p) h hd

theorem marked_settled (x : Context α) (c : C) (hk : s.health.isFaulty k.sensor = true) :
    let o := Arbiter.settled x s c
    o.standing.health.isFaulty k.sensor = true ∨ ∃ source, .heightReset source k ∈ o.events := by
  refine (Arbiter.settled_decisions x s c).keep
    (P := fun o => o.standing.health.isFaulty k.sensor = true ∨
      ∃ source, .heightReset source k ∈ o.events) (Or.inl hk) ?_
  intro o p ih hd
  rcases ih with hm | ⟨source, he⟩
  · rcases marked_decision (o := p) hd hm with hm | he
    · exact Or.inl hm
    · exact Or.inr ⟨_, List.mem_append_right _ he⟩
  · exact Or.inr ⟨source, List.mem_append_left _ he⟩

/-- A cycle that resets height away from a source leaves it marked. -/
theorem demoted_settled (x : Context α) (s : Standing α) (c : C) (hne : target ≠ source)
    (he : .heightReset source target ∈ (Arbiter.settled x s c).events) :
    (Arbiter.settled x s c).standing.health.isFaulty source.sensor = true := by
  -- within the cycle the mark may only go by a reset back, which would be a second one
  have left_or_reset : ∀ {o : Outcome α C}, Decisions x s c o →
      .heightReset source target ∈ o.events →
        o.standing.health.isFaulty source.sensor = true ∨
          ∃ l, .heightReset l source ∈ o.events := by
    intro o h
    induction h with
    | none => exact fun he => absurd he List.not_mem_nil
    | @more o p _ hd ih =>
        intro he
        rcases List.mem_append.mp he with he | he
        · rcases ih he with hm | ⟨l, hl⟩
          · exact (marked_decision (o := p) hd hm).imp_right fun hr =>
              ⟨_, List.mem_append_right _ hr⟩
          · exact Or.inr ⟨l, List.mem_append_left _ hl⟩
        · exact Or.inl ((demoted_decision hd he).2 hne)
  rcases left_or_reset (Arbiter.settled_decisions x s c) he with hm | ⟨l, hl⟩
  · exact hm
  · exact absurd (heightReset_unique he hl) hne

end Decision

/-! ## Range -/

/-- The source that an event selects for height. -/
def Event.heightSelected? {α : Type} : Event α → Option HeightSource
  | .visionPositionStarted => some .vision
  | .heightReset _ target => some target
  | .heightSourceSelected source => some source
  | _ => none

section Range

variable {α C : Type} [Scalar α] [Estimator α C] {x : Context α} {s : Standing α} {c : C}
  {o : Outcome α C}

/-- A range height that was left behind is not selected: its mark excludes the preference for it,
and height is reset to range only from range. -/
theorem range_decision (hb : x.before.height ≠ .range) (hm : s.health.isFaulty .range = true)
    (h : Decision x s c o) : o.standing.health.isFaulty .range = true ∧
      ∀ e ∈ o.events, e.heightSelected? ≠ some .range := by
  have unselected : ∀ e ∈ o.events, e.heightSelected? ≠ some .range := by
    intro e he hr
    cases h with
    | resetHeight _ target _ hc =>
        cases List.mem_singleton.mp he
        cases hr
        exact hb (active_of_choose hc (Or.inl rfl))
    | selectPreferred _ _ hsound _ =>
        cases List.mem_singleton.mp he
        have hp : x.settings.preferredHeight = .range := Option.some.inj hr
        rw [hp, Height.sound, hm] at hsound
        simp at hsound
    | startVisionPosition =>
        cases List.mem_singleton.mp he
        cases hr
    | _ =>
        first
          | exact absurd he List.not_mem_nil
          | (cases List.mem_singleton.mp he; cases hr)
  rcases marked_decision (k := .range) h hm with hm | he
  · exact ⟨hm, unselected⟩
  · exact absurd rfl (unselected _ he)

theorem range_settled (c : C) (hb : x.before.height ≠ .range)
    (hm : s.health.isFaulty .range = true) :
    ∀ e ∈ (Arbiter.settled x s c).events, e.heightSelected? ≠ some .range := by
  have start : ∀ e ∈ ([] : List (Event α)), e.heightSelected? ≠ some .range :=
    fun _ he => absurd he List.not_mem_nil
  have kept := (Arbiter.settled_decisions x s c).keep
    (P := fun o => o.standing.health.isFaulty .range = true ∧
      ∀ e ∈ o.events, e.heightSelected? ≠ some .range) ⟨hm, start⟩ <| by
    intro o p ih hd
    obtain ⟨hm', hp⟩ := range_decision (o := p) hb ih.1 hd
    refine ⟨hm', ?_⟩
    intro e he
    rcases List.mem_append.mp he with he | he
    · exact ih.2 e he
    · exact hp e he
  exact kept.2

end Range

/-! ## Flights -/

namespace Flight

variable {α C : Type} [Scalar α] [FilterCore α C] {f : Flight α C} {k source target : HeightSource}

theorem heightSound_step (hf : f.arbiter.standing.HeightSound) (l : FlightStep α C) :
    (f.step l).arbiter.standing.HeightSound := by
  cases l with
  | update clock h =>
      rw [standing_update]
      exact heightSound_settled (f.arbiter.context clock h) f.core hf
  | setInAir _ => exact hf.congr rfl fun _ => rfl
  | predict _ _ _ => exact hf
  | fuse input =>
      exact hf.congr rfl fun t => (GatedFilter.fuseActive_onlyFused _ _ input).isFaulty t
  | adjust _ => exact hf

theorem heightSound_after (hf : f.arbiter.standing.HeightSound)
    (steps : List (FlightStep α C)) : (f.after steps).arbiter.standing.HeightSound :=
  after_keeps (P := fun g => g.arbiter.standing.HeightSound) steps
    (fun _ l _ hg => heightSound_step hg l) hf

theorem marked_step (hk : f.arbiter.standing.health.isFaulty k.sensor = true)
    (l : FlightStep α C) :
    (f.step l).arbiter.standing.health.isFaulty k.sensor = true ∨
      ∃ t source, (t, .heightReset source k) ∈ f.eventsOf l := by
  cases l with
  | update clock h =>
      rw [standing_update]
      refine (marked_settled (f.arbiter.context clock h) f.core hk).imp_right ?_
      rintro ⟨source, he⟩
      exact ⟨clock.now, source, List.mem_map_of_mem ((mem_update_events .height rfl).mpr he)⟩
  | setInAir _ => exact Or.inl hk
  | predict _ _ _ => exact Or.inl hk
  | fuse input =>
      exact Or.inl (((GatedFilter.fuseActive_onlyFused _ _ input).isFaulty _).trans hk)
  | adjust _ => exact Or.inl hk

/-- A mark outlasts every run that does not reset height to its source. -/
theorem marked_after : ∀ {f : Flight α C} (steps : List (FlightStep α C)),
    f.arbiter.standing.health.isFaulty k.sensor = true →
    (∀ t source, (t, .heightReset source k) ∉ f.journal steps) →
    (f.after steps).arbiter.standing.health.isFaulty k.sensor = true
  | _, [], hk, _ => hk
  | f, l :: ls, hk, unreset => by
      rcases marked_step hk l with hk | ⟨t, source, he⟩
      · exact marked_after ls hk fun t source he =>
          unreset t source (List.mem_append_right _ he)
      · exact absurd (List.mem_append_left _ he) (unreset t source)

theorem range_step (hf : f.arbiter.standing.HeightSound)
    (hm : f.arbiter.standing.health.isFaulty .range = true) (l : FlightStep α C) :
    ∀ e ∈ f.eventsOf l, e.2.heightSelected? ≠ some .range := by
  cases l with
  | update clock h =>
      intro e he
      obtain ⟨e, hmem, rfl⟩ := List.mem_map.mp he
      have hb := hf.ne_of_marked (k := .range) (by decide) hm
      rw [cycle, Arbiter.update_eq] at hmem
      rcases List.mem_append.mp hmem with hmem | hmem
      · exact range_settled (x := f.arbiter.context clock h) f.core hb hm e hmem
      · rcases mem_announce hmem with rfl | rfl | rfl <;> exact (Option.some_ne_none _).symm
  | setInAir _ | predict _ _ _ | fuse _ | adjust _ => exact fun _ he => absurd he List.not_mem_nil

theorem range_journal : ∀ {f : Flight α C} (steps : List (FlightStep α C)),
    f.arbiter.standing.HeightSound → f.arbiter.standing.health.isFaulty .range = true →
    ∀ e ∈ f.journal steps, e.2.heightSelected? ≠ some .range
  | _, [], _, _ => fun _ he => absurd he List.not_mem_nil
  | f, l :: ls, hf, hm => by
      intro e he
      have first := range_step hf hm l
      rcases List.mem_append.mp he with he | he
      · exact first e he
      · rcases marked_step (k := .range) hm l with hm | ⟨t, source, hr⟩
        · exact range_journal ls (heightSound_step hf l) hm e he
        · exact absurd rfl (first _ hr)

/-- In a flight from a new arbiter, whatever its core and its samples: a height source in use is
vision or carries no fault mark; a source other than vision that height was reset away from is not
in use again before height is reset to it; and range is not selected again at all. -/
theorem demoted_stays {settings : Settings α} {a : Arbiter α} (h : Arbiter.new settings = .ok a)
    (core : C) (steps later : List (FlightStep α C)) (clock : Clock) (samples : Histories α)
    (source target : HeightSource) :
    let f : Flight α C := Flight.after ⟨a, core⟩ steps
    let rest := f.step (.update clock samples)
    (f.arbiter.standing.status.height ≠ .vision →
      f.arbiter.standing.health.isFaulty f.arbiter.standing.status.height.sensor = false) ∧
    (.heightReset source target ∈ (f.cycle clock samples).events → target ≠ source →
      source ≠ .vision →
      ((∀ t k, (t, .heightReset k source) ∉ rest.journal later) →
        (rest.after later).arbiter.standing.status.height ≠ source) ∧
      (source = .range → (rest.after later).arbiter.standing.status.height ≠ .range ∧
        ∀ e ∈ rest.journal later, e.2.heightSelected? ≠ some .range)) := by
  intro f rest
  have hf : f.arbiter.standing.HeightSound := by
    refine heightSound_after ?_ steps
    rw [Arbiter.eq_ofSettings_of_new h]
    exact Or.inr rfl
  have hrest : rest.arbiter.standing.HeightSound := heightSound_step hf _
  refine ⟨fun hv => hf.resolve_left hv, fun he hne hv => ?_⟩
  have marked : rest.arbiter.standing.health.isFaulty source.sensor = true := by
    rw [standing_update]
    exact demoted_settled _ _ _ hne ((mem_update_events .height rfl).mp he)
  have unused (unreset : ∀ t k, (t, .heightReset k source) ∉ rest.journal later) :
      (rest.after later).arbiter.standing.status.height ≠ source :=
    (heightSound_after hrest later).ne_of_marked hv (marked_after later marked unreset)
  refine ⟨unused, ?_⟩
  rintro rfl
  have unselected := range_journal later hrest marked
  exact ⟨unused fun t k hr => unselected _ hr rfl, unselected⟩

end Flight

/-! ## A range sensor that falls silent -/

/-- The sources of the height reset that an event announces. -/
def Event.heightReset? {α : Type} : Event α → Option (HeightSource × HeightSource)
  | .heightReset source target => some (source, target)
  | _ => none

theorem Event.mem_of_heightReset? {α : Type} {es : List (Event α)} {k l : HeightSource}
    (h : some (k, l) ∈ es.map Event.heightReset?) : .heightReset k l ∈ es := by
  obtain ⟨e, he, hr⟩ := List.mem_map.mp h
  cases e with
  | heightReset source target =>
      cases hr
      exact he
  | _ => cases hr

/-- A pose, a distance and a barometric height, each at its time if it has one. -/
def sensedAt (vision range baro : Option Time) : Histories Float :=
  { noSamples with
    vision := historyOf (vision.toList.map fun t => ⟨t, .zero, .identity, 0.1, 0.1⟩)
    range := historyOf (range.toList.map fun t => ⟨t, 1.0⟩)
    baro := historyOf (baro.toList.map fun t => ⟨t, 1.0⟩) }

/-- Range is preferred for height, and yaw comes from vision. -/
def rangeOverVision : Settings Float :=
  { preferring .range .auto with allowed := { visionYaw := true } }

/-- A flight on range height up to an uncertain vertical position. -/
def ranging : List (FlightStep Float (GatedFilter Float)) :=
  let seen := sensedAt (some 900000) (some 900000) none
  [.update ⟨1000000, 900000⟩ seen, .update ⟨1010000, 910000⟩ seen,
    .update ⟨1020000, 920000⟩ seen, .predict 1030000 1.0 true]

/-- Range times out and height goes to the barometer.  Distances come in again, range is preferred
and present at the horizon, and the barometer stays in use. -/
theorem demoted_stays_ranging :
    let f : Flight Float (GatedFilter Float) :=
      Flight.after ⟨.ofSettings rangeOverVision, .levelled⟩ ranging
    let silent := sensedAt none (some 900000) (some 11950000)
    let samples := sensedAt none (some 11910000) (some 11950000)
    let back : Clock := ⟨12010000, 11910000⟩
    let rest := f.step (.update ⟨12000000, 11900000⟩ silent)
    Arbiter.new rangeOverVision = .ok (.ofSettings rangeOverVision) ∧
      f.arbiter.standing.status.height = .range ∧
      f.arbiter.standing.health.isFaulty f.arbiter.standing.status.height.sensor = false ∧
      Height.presentAtHorizon (rest.arbiter.context back samples) .range = true ∧
      (rest.after [.update back samples]).arbiter.standing.status.height ≠ .range ∧
      ∀ e ∈ rest.journal [.update back samples], e.2.heightSelected? ≠ some .range := by
  have accepted : Arbiter.new rangeOverVision = .ok (.ofSettings _) := rfl
  obtain ⟨sound, stays⟩ := Flight.demoted_stays accepted .levelled ranging
    [.update ⟨12010000, 11910000⟩ (sensedAt none (some 11910000) (some 11950000))]
    ⟨12000000, 11900000⟩ (sensedAt none (some 900000) (some 11950000)) .range .baro
  obtain ⟨unused, never⟩ :=
    stays (Event.mem_of_heightReset? (by decide +kernel)) (by decide) (by decide)
  have unselected := (never rfl).2
  refine ⟨accepted, by decide +kernel, sound (by decide +kernel), by decide +kernel,
    unused fun t k he => ?_, unselected⟩
  exact unselected (t, .heightReset k .range) he rfl

end NavArbiter

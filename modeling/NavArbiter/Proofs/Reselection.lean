/-
# A source left behind is not taken up again at once

Height is reset away from a source that failed, and after that, in the same call, the preferred
source is selected.  The two disagree on what is recent: the reset looks at the newest sample from
now, the preference at the sample of the delayed horizon from there.  What keeps the second from
undoing the first is the fault mark:

    left behind    its mark       as the preferred source
    barometer      set            not sound
    satellite      set            not sound
    range          set            not sound
    vision         set, unread    sound, and taken up if a pose lies at the horizon

So only vision can come back, and only because of the delay: a horizon that is not before now finds
no pose that the reset would not have found (`History.recent_of_recentAt`).
-/
import NavArbiter.Proofs.HeightCommit

namespace NavArbiter

/-- There is a sample at the horizon and it is younger than `maxAge` there. -/
def History.RecentAt {β : Type} [Timed β] (b : History β) (horizon : Time) (maxAge : Nat) : Prop :=
  ∃ w, b.near? horizon = some w ∧ Time.age horizon (time w) < maxAge

theorem History.RecentAt.mono {β : Type} [Timed β] {b : History β} {horizon : Time}
    {maxAge limit : Nat} (h : b.RecentAt horizon maxAge) (hle : maxAge ≤ limit) :
    b.RecentAt horizon limit := by
  obtain ⟨w, found, young⟩ := h
  exact ⟨w, found, Nat.lt_of_lt_of_le young hle⟩

/-- Seen from now, what a later horizon finds recent is no older than the newest sample. -/
theorem History.recent_of_recentAt {β : Type} [Timed β] {b : History β} {now horizon : Time}
    {maxAge : Nat} (h : b.RecentAt horizon maxAge) (later : now ≤ horizon) :
    b.Recent now maxAge := by
  obtain ⟨w, found, young⟩ := h
  unfold near? at found
  unfold Recent newest?
  rw [← List.head?_reverse]
  unfold Time.age at *
  cases newestFirst : b.samples.reverse with
  | nil => rw [newestFirst] at found; cases found
  | cons v vs =>
      rw [newestFirst, List.find?_cons] at found
      refine ⟨v, rfl, ?_⟩
      by_cases passed : time v ≤ horizon
      · rw [decide_eq_true passed] at found
        cases found
        exact Nat.lt_of_le_of_lt (Nat.sub_le_sub_right later _) young
      -- the newest sample lies beyond the horizon, and so in the future
      · have ahead : now ≤ time v := Nat.le_trans later (Nat.le_of_not_le passed)
        rw [Nat.sub_eq_zero_of_le ahead]
        exact Nat.zero_lt_of_lt young

variable {α C : Type} [Scalar α] [Estimator α C]

section Call

variable {x : Context α} {s : Standing α} {c : C} {source target : HeightSource}

omit [Scalar α] [Estimator α C] in
theorem presentAtHorizon_vision_iff : Height.presentAtHorizon x .vision = true ↔
    x.histories.vision.RecentAt x.clock.horizon (x.settings.heightMaxAge .vision) := by
  unfold Height.presentAtHorizon Context.horizonFresh History.RecentAt
  dsimp only
  cases x.histories.vision.near? x.clock.horizon with
  | none => simp
  | some w =>
      rw [decide_eq_true_iff]
      exact ⟨fun young => ⟨w, rfl, young⟩, fun ⟨_, found, young⟩ => by cases found; exact young⟩

omit [Scalar α] [Estimator α C] in
/-- A marked source is not sound, vision apart. -/
theorem eq_vision_of_sound (marked : s.health.isFaulty source.sensor = true)
    (sound : Height.sound x s source = true) : source = .vision := by
  cases source <;> simp_all [Height.sound, HeightSource.sensor]

/-- A reset that is announced was picked and granted, and is the only answer. -/
theorem reset_answer (reset : .heightReset source target ∈ (Height.control x s c).events) :
    let o := Height.control x s c
    source = x.before.height ∧ Height.choice x s c = some target ∧
      s.health.HeightMoved source target x.clock.now o.standing.health ∧ o.HeightFrom target := by
  intro o
  have due := due_of_answer reset rfl
  have answer := height_answer x s c
  have mem := List.mem_filter.mpr ⟨reset, show Event.answersTimeout _ = true from rfl⟩
  dsimp only at answer
  generalize o.events.filter Event.answersTimeout = answers at answer mem
  cases answer with
  | none => exact absurd mem List.not_mem_nil
  | denied | failed => cases List.mem_singleton.mp mem
  | reset target requests _ moved supplied =>
      cases List.mem_singleton.mp mem
      have picked : Height.Picks x s c target := ⟨true, requests ▸ List.mem_singleton_self _⟩
      exact ⟨rfl, (picks_iff due).mp picked, moved, supplied⟩

/-- Vision is left only if it is stale from now. -/
theorem stale_vision (chosen : Height.choice x s c = some target)
    (active : x.before.height = .vision) (leaves : target ≠ .vision) :
    ¬ x.histories.vision.Recent x.clock.now (x.settings.heightMaxAge .vision) := by
  intro recent
  have other : target ≠ x.before.height := fun stays => leaves (stays.trans active)
  obtain ⟨-, -, stale⟩ := (choose_of_proximity (Or.inr active) other).mp chosen
  refine stale (fresh_facts_iff.mpr ?_)
  show x.Usable x.before.height
  rw [active]
  exact ⟨show x.FreshHeight .vision from recent, nofun⟩

end Call

/-! ## Sources left behind -/

/-- Only vision is taken up again, if it is preferred and a pose at a horizon before now is younger
there than the age limit of vision. -/
theorem taken_up_again_iff {x : Context α} {s : Standing α} {c : C} {source target : HeightSource}
    (reset : .heightReset source target ∈ (Height.control x s c).events)
    (leaves : target ≠ source) :
    (Height.control x s c).standing.status.height = source ↔
      source = .vision ∧ x.settings.preferredHeight = .vision ∧
        x.clock.horizon < x.clock.now ∧
        x.histories.vision.RecentAt x.clock.horizon (x.settings.heightMaxAge .vision) := by
  let o := Height.control x s c
  let w : Outcome α C := Height.watched x s c
  obtain ⟨active, chosen, moved, supplied⟩ := reset_answer reset
  obtain ⟨overruled, unchanged⟩ := height_status x s c
  constructor
  · intro again
    obtain ⟨l, selected⟩ : ∃ l, .heightSourceSelected l ∈ o.events := by
      by_contra unselected
      exact leaves ((supplied (not_exists.mp unselected)).symm.trans again)
    obtain ⟨rfl, -, sound, present⟩ := (selected_iff x s c l).mp selected
    have preferred : x.settings.preferredHeight = source := (overruled _ selected).symm.trans again
    rw [preferred] at sound present
    have marked : w.standing.health.isFaulty source.sensor = true := by
      rw [show w.standing.health = o.standing.health from (height_left x s c).2.2.symm]
      exact moved.left.mpr leaves
    obtain rfl := eq_vision_of_sound marked sound
    have found := presentAtHorizon_vision_iff.mp present
    refine ⟨rfl, preferred, ?_, found⟩
    by_contra later
    exact stale_vision chosen active.symm leaves
      (History.recent_of_recentAt found (Nat.le_of_not_lt later))
  · rintro ⟨rfl, preferred, -, found⟩
    by_contra away
    have unselected : ∀ l, .heightSourceSelected l ∉ o.events := by
      intro l selected
      have taken := overruled l selected
      rw [((selected_iff x s c l).mp selected).1, preferred] at taken
      exact away taken
    have left : w.standing.status.height = target :=
      (unchanged unselected).symm.trans (supplied unselected)
    refine unselected _ ((selected_iff x s c _).mpr ⟨rfl, ?_⟩)
    rw [Height.WantsPreferred, preferred, left]
    exact ⟨leaves, rfl, presentAtHorizon_vision_iff.mpr found⟩

/-- In every call of the height controller, whatever the core answers: a source that height was
reset away from supplies height again at the end of the call only if it is vision, vision is
preferred, and a pose at a horizon before now is younger there than two intervals.  And then it
does, as long as twice the interval is a time. -/
theorem height_left_behind (x : Context α) (s : Standing α) (c : C) {source target : HeightSource}
    (reset : .heightReset source target ∈ (Height.control x s c).events)
    (leaves : target ≠ source) :
    let again := (Height.control x s c).standing.status.height = source
    let present := source = .vision ∧ x.settings.preferredHeight = .vision ∧
      x.clock.horizon < x.clock.now ∧
      x.histories.vision.RecentAt x.clock.horizon (2 * x.settings.visionMaxInterval)
    (again → present) ∧ (2 * x.settings.visionMaxInterval ≤ Time.last → present → again) := by
  intro again present
  have taken := taken_up_again_iff reset leaves
  refine ⟨fun h => ?_, fun fits ⟨vision, preferred, before, found⟩ => ?_⟩
  · obtain ⟨vision, preferred, before, found⟩ := taken.mp h
    exact ⟨vision, preferred, before, found.mono (Time.twice_le _)⟩
  · exact taken.mpr ⟨vision, preferred, before, found.mono (Time.twice_of_le fits).ge⟩

/-- The barometer is left for an accurate fix, and does not come back although it is preferred and
present at the horizon. -/
theorem height_left_behind_baro :
    let baro := historyOf [⟨890000, 0.0⟩, ⟨990000, 0.0⟩]
    let x : Context Float := ⟨⟨1000000, 900000⟩, .default,
      { noSamples with baro, gps := fixesAt [950000] }, { Status.initial with yawAligned := true }⟩
    let core : GatedFilter Float := Estimator.setVariance GatedFilter.levelled .posDown 30.0
    let o := Height.control x .initial core
    .heightReset .baro .gps ∈ o.events ∧ x.settings.preferredHeight = .baro ∧
      Height.presentAtHorizon x .baro = true ∧ o.standing.status.height ≠ .baro := by
  intro baro x core o
  have reset : .heightReset .baro .gps ∈ o.events :=
    Event.mem_of_heightReset? (by decide +kernel)
  have left := height_left_behind x .initial core reset (by decide)
  exact ⟨reset, rfl, by decide +kernel, fun again => nomatch (left.1 again).1⟩

/-- A pose that is too old from now and young at the horizon brings vision back in the call that
left it. -/
theorem vision_reselected :
    let before : Status := { Status.initial with height := .vision }
    let x : Context Float := ⟨⟨1000000, 800000⟩, preferring .vision .auto,
      sensedAt (some 550000) none (some 950000), before⟩
    let s : Standing Float := { Standing.initial with status := before }
    let core : GatedFilter Float := Estimator.setVariance GatedFilter.levelled .posDown 30.0
    let o := Height.control x s core
    x.clock.horizon ≤ x.clock.now ∧ .heightReset .vision .baro ∈ o.events ∧
      o.standing.status.height = .vision := by
  intro before x s core o
  have reset : .heightReset .vision .baro ∈ o.events :=
    Event.mem_of_heightReset? (by decide +kernel)
  exact ⟨by decide, reset, by decide +kernel⟩

end NavArbiter

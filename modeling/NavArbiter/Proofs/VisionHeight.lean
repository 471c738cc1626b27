/-
# The height that vision brings along

Vision selects its own height as it takes position over, but it is not the last to do so in the
cycle.  The height controller runs after it, and looks at the source from before the cycle and at
the preference:

    writer                   selects                         announced as
    vision                   vision                          visionPositionStarted
    the watch over height    the source of a height reset    heightReset
    the preference           the preferred source            heightSourceSelected

Each writes over the one before it, and none writes without announcing it.  So the source in use
after a cycle is the one that its events selected last (`height_update`), and vision height is what
stays unless one of the other two speaks (`height_of_visionPosition`).
-/
import NavArbiter.Proofs.Demotion
import NavArbiter.Proofs.Journal
import NavArbiter.Proofs.Latches

namespace NavArbiter

/-! ## The source selected last -/

section Selection

variable {α : Type}

/-- The height source in use after events, from the events alone. -/
def HeightSource.after (k : HeightSource) (es : List (Event α)) : HeightSource :=
  es.foldl (fun k e => e.heightSelected?.getD k) k

theorem HeightSource.after_append (k : HeightSource) (es fs : List (Event α)) :
    k.after (es ++ fs) = (k.after es).after fs :=
  List.foldl_append

theorem HeightSource.after_append_singleton (k : HeightSource) (es : List (Event α))
    (e : Event α) : k.after (es ++ [e]) = e.heightSelected?.getD (k.after es) :=
  HeightSource.after_append k es [e]

/-- Events that select nothing leave the source as it is. -/
theorem HeightSource.after_of_silent {es : List (Event α)}
    (h : ∀ e ∈ es, e.heightSelected? = none) (k : HeightSource) : k.after es = k := by
  induction es with
  | nil => rfl
  | cons e es ih =>
      have first : e.heightSelected?.getD k = k := by rw [h e (List.mem_cons_self ..)]; rfl
      show (e.heightSelected?.getD k).after es = k
      rw [first]
      exact ih fun e he => h e (List.mem_cons_of_mem _ he)

/-- The journal follows the source in the same way. -/
theorem Configuration.replay_height (k : Configuration) (es : List (Event α)) :
    (k.replay es).height = k.height.after es := by
  induction es generalizing k with
  | nil => rfl
  | cons e es ih =>
      have first : (k.note e).height = e.heightSelected?.getD k.height := by cases e <;> rfl
      show ((k.note e).replay es).height = (e.heightSelected?.getD k.height).after es
      rw [ih, first]

/-- Only vision and the height controller select a source of height. -/
theorem Event.heightSelected?_eq_none {e : Event α} (hv : e.stage ≠ .vision)
    (hh : e.stage ≠ .height) : e.heightSelected? = none := by
  cases e <;> first | rfl | exact absurd rfl hv | exact absurd rfl hh

end Selection

variable {α C : Type} [Scalar α] [Estimator α C]

theorem height_update (a : Arbiter α) (clock : Clock) (samples : Histories α) (c : C) :
    (a.update clock samples c).arbiter.standing.status.height =
      a.standing.status.height.after (a.update clock samples c).events := by
  have followed := congrArg Configuration.height (Configuration.replay_update a clock samples c)
  rw [Configuration.replay_height] at followed
  exact followed.symm

/-! ## The two stages -/

section Stages

variable (x : Context α) (s : Standing α) (c : C)

theorem takeYaw_silent : ∀ e ∈ (Vision.takeYaw x s c).events,
    e.heightSelected? = none ∧ e ≠ .visionPositionStarted := by
  rcases takeYaw_events x s c with h | ⟨turn, h⟩ <;> rw [h]
  · exact List.forall_mem_nil _
  · exact List.forall_mem_singleton.mpr ⟨rfl, nofun⟩

/-- Where vision takes position over, it selects its own height. -/
theorem after_vision (h : .visionPositionStarted ∈ (Vision.control x s c).events)
    (k : HeightSource) : k.after (Vision.control x s c).events = .vision := by
  let position := Vision.takePosition x s c
  let yaw := Vision.takeYaw x position.standing position.core
  have parts : (Vision.control x s c).events = position.events ++ yaw.events := rfl
  have silent := takeYaw_silent x position.standing position.core
  have started : position.events = [.visionPositionStarted] := by
    rw [parts, List.mem_append] at h
    have he := h.resolve_right fun he => (silent _ he).2 rfl
    rcases takePosition_events x s c with hn | hn | hn
    · rw [hn] at he
      exact absurd he List.not_mem_nil
    · exact hn
    · rw [hn] at he
      cases List.mem_singleton.mp he
  rw [parts, HeightSource.after_append, started]
  exact HeightSource.after_of_silent (fun e he => (silent e he).1) _

/-- The watch over timeouts selects a source by a reset, or none. -/
theorem watchTimeout_selects : (∀ e ∈ (Height.watchTimeout x s c).events,
      e.heightSelected? = none) ∨
    ∃ l, (Height.watchTimeout x s c).events = [.heightReset x.before.height l] := by
  rcases watchTimeout_events x s c with h | ⟨e, h, rfl | ⟨target, rfl | rfl⟩⟩ <;> rw [h]
  · exact Or.inl (List.forall_mem_nil _)
  · exact Or.inl (List.forall_mem_singleton.mpr rfl)
  · exact Or.inr ⟨target, rfl⟩
  · exact Or.inl (List.forall_mem_singleton.mpr rfl)

/-- The height controller leaves a source in use unless it announces another one. -/
theorem after_height_silent (k : HeightSource)
    (unreset : ∀ source l, .heightReset source l ∉ (Height.control x s c).events)
    (unpreferred : ∀ m, .heightSourceSelected m ∉ (Height.control x s c).events) :
    k.after (Height.control x s c).events = k := by
  refine HeightSource.after_of_silent (fun e he => ?_) k
  cases e with
  | heightReset source l => exact absurd he (unreset source l)
  | heightSourceSelected m => exact absurd he (unpreferred m)
  | visionPositionStarted => cases height_isOf x s c _ he
  | _ => rfl

/-- A height reset leaves the source from before the cycle, and only the preference overrules it. -/
theorem after_height_of_reset (k : HeightSource) {source l : HeightSource} :
    let es := (Height.control x s c).events
    .heightReset source l ∈ es →
      source = x.before.height ∧ (k.after es = l ∨ .heightSourceSelected (k.after es) ∈ es) := by
  intro es he
  obtain ⟨s', c', first, last, events, hfirst, hlast⟩ := height_events x s c
  have parts : es = first ++ (Height.watchTimeout x s' c' : Outcome α C).events ++ last := events
  have unsuspected : .heightReset source l ∉ first := by rcases hfirst with rfl | rfl <;> simp
  have unpreferred : .heightReset source l ∉ last := by rcases hlast with rfl | rfl <;> simp
  rw [parts, List.mem_append, List.mem_append] at he
  have reset := (he.resolve_right unpreferred).resolve_left unsuspected
  rcases watchTimeout_selects x s' c' with hn | ⟨target, ht⟩
  · cases hn _ reset
  · rw [ht] at reset parts
    cases List.mem_singleton.mp reset
    refine ⟨rfl, ?_⟩
    rcases hlast with rfl | rfl
    · rw [parts, List.append_nil, HeightSource.after_append_singleton]
      exact Or.inl rfl
    · rw [parts, HeightSource.after_append_singleton]
      exact Or.inr (List.mem_append_right _ (List.mem_singleton_self _))

/-- The preference has the last word. -/
theorem after_height_of_preferred (k : HeightSource) {m : HeightSource} :
    let es := (Height.control x s c).events
    .heightSourceSelected m ∈ es → m = x.settings.preferredHeight ∧ k.after es = m := by
  intro es he
  obtain ⟨s', c', first, last, events, hfirst, hlast⟩ := height_events x s c
  have parts : es = first ++ (Height.watchTimeout x s' c' : Outcome α C).events ++ last := events
  have unsuspected : .heightSourceSelected m ∉ first := by rcases hfirst with rfl | rfl <;> simp
  have unreset : .heightSourceSelected m ∉
      (Height.watchTimeout x s' c' : Outcome α C).events := by
    intro hw
    rcases watchTimeout_selects x s' c' with hn | ⟨target, ht⟩
    · cases hn _ hw
    · rw [ht] at hw
      cases List.mem_singleton.mp hw
  rw [parts, List.mem_append, List.mem_append] at he
  have preferred := he.resolve_left fun hw => hw.elim unsuspected unreset
  rcases hlast with rfl | rfl
  · exact absurd preferred List.not_mem_nil
  · cases List.mem_singleton.mp preferred
    rw [parts, HeightSource.after_append_singleton]
    exact ⟨rfl, rfl⟩

end Stages

/-! ## The cycle -/

omit [Scalar α] in
theorem announce_silent {before now : Status} :
    ∀ e ∈ Mag.announce (α := α) before now, e.heightSelected? = none := by
  intro e he
  rcases mem_announce he with rfl | rfl | rfl <;> rfl

/-- Of the stages only vision and the height controller count for the source of height. -/
theorem after_update (a : Arbiter α) (clock : Clock) (samples : Histories α) (c : C)
    (k : HeightSource) :
    let part (g : Stage) := g.inCycle (a.context clock samples) a.standing c
    k.after (a.update clock samples c).events =
      (k.after (part .vision).events).after (part .height).events := by
  intro part
  have silent : ∀ g : Stage, g ≠ .vision → g ≠ .height →
      ∀ l : HeightSource, l.after (part g).events = l := by
    intro g hv hh l
    refine HeightSource.after_of_silent (fun e he => ?_) l
    have stage : e.stage = g := run_isOf g _ _ _ e he
    exact Event.heightSelected?_eq_none (stage ▸ hv) (stage ▸ hh)
  have settled : k.after (Arbiter.settled (a.context clock samples) a.standing c).events =
      (k.after (part .vision).events).after (part .height).events := by
    rw [settled_events]
    show k.after ((part .tilt).events ++ ((part .vision).events ++ ((part .flow).events ++
      ((part .gps).events ++ ((part .height).events ++ ((part .mag).events ++ [])))))) = _
    simp only [HeightSource.after_append, List.append_nil]
    rw [silent .tilt, silent .flow, silent .gps, silent .mag] <;> decide
  rw [Arbiter.update_eq, HeightSource.after_append, settled]
  exact HeightSource.after_of_silent announce_silent _

/-- A cycle in which vision takes position over leaves vision position in use, and vision height too
unless the height controller announces another source: the one that height was reset to from the
source before the cycle, or else the preferred one, which has the last word. -/
theorem height_of_visionPosition (a : Arbiter α) (clock : Clock) (samples : Histories α) (c : C)
    (started : .visionPositionStarted ∈ (a.update clock samples c).events) :
    let es := (a.update clock samples c).events
    let t := (a.update clock samples c).arbiter.standing.status
    t.visionPosition = true ∧
    ((∀ source target, .heightReset source target ∉ es) →
      (∀ preferred, .heightSourceSelected preferred ∉ es) → t.height = .vision) ∧
    (∀ source target, .heightReset source target ∈ es →
      source = a.standing.status.height ∧
        (t.height = target ∨ .heightSourceSelected t.height ∈ es)) ∧
    ∀ preferred, .heightSourceSelected preferred ∈ es →
      preferred = a.settings.preferredHeight ∧ t.height = preferred := by
  intro es t
  let x := a.context clock samples
  have taken : t.visionPosition = true := by
    have set : (Arbiter.settled x a.standing c).standing.status.visionPosition = true :=
      ((settled_latches (x := x) c rfl).isSet_iff .visionPosition).mpr
        (Or.inr ⟨_, (mem_update_events .vision rfl).mp started, rfl⟩)
    simpa only [t, Arbiter.update_eq] using set
  -- membership in the cycle is membership in the run of the height controller
  let found := Stage.height.upTo x a.standing c
  have mem_iff : ∀ e : Event α, e.stage = .height →
      (e ∈ es ↔ e ∈ (Height.control x found.standing found.core).events) := fun e he =>
    (mem_update_events .height he).trans (mem_settled_iff he)
  have vision := after_vision x (Stage.vision.upTo x a.standing c).standing
    (Stage.vision.upTo x a.standing c).core
    ((mem_settled_iff rfl).mp ((mem_update_events .vision rfl).mp started))
  have height : t.height =
      HeightSource.vision.after (Height.control x found.standing found.core).events := by
    have last := (height_update a clock samples c).trans (after_update a clock samples c _)
    exact last.trans (congrArg (fun k => HeightSource.after k _) (vision _))
  refine ⟨taken, fun unreset unpreferred => ?_, fun source target he => ?_, fun m he => ?_⟩
  · rw [height]
    exact after_height_silent x _ _ _ (fun k l he => unreset k l ((mem_iff _ rfl).mpr he))
      fun m he => unpreferred m ((mem_iff _ rfl).mpr he)
  · rw [height]
    obtain ⟨left, reached⟩ := after_height_of_reset x _ _ .vision ((mem_iff _ rfl).mp he)
    exact ⟨left, reached.imp_right (mem_iff _ rfl).mpr⟩
  · rw [height]
    exact after_height_of_preferred x _ _ .vision ((mem_iff _ rfl).mp he)

/-! ## A barometer in use beside vision -/

/-- A pose with this error, a field, and a barometric height at its time. -/
def poseBesideBaro (positionError : Float) (baro : Time) : Histories Float :=
  { poseAndField with
    vision := historyOf [⟨900000, .zero, .identity, positionError, 0.1⟩]
    baro := historyOf [⟨baro, 1.0⟩] }

theorem Event.mem_visionPositionStarted {α : Type} {es : List (Event α)}
    (h : "vision_position_started" ∈ es.map Event.name) : .visionPositionStarted ∈ es :=
  Event.mem_of_name .visionPositionStarted (fun e' he => by cases e' <;> simp_all [Event.name]) h

/-- With nothing but vision to measure height by, vision height stays. -/
theorem height_of_visionPosition_alone :
    let a := alignedWith visionAided
    let core : GatedFilter Float := .levelled
    let clock : Clock := ⟨1010000, 910000⟩
    .visionPositionStarted ∈ (a.update clock poseAndField core).events ∧
      (a.update clock poseAndField core).arbiter.standing.status.visionPosition = true ∧
      (a.update clock poseAndField core).arbiter.standing.status.height = .vision := by
  intro a core clock
  have started : .visionPositionStarted ∈ (a.update clock poseAndField core).events :=
    Event.mem_visionPositionStarted (by decide +kernel)
  have silent : ∀ e ∈ (a.update clock poseAndField core).events, e.stage ≠ .height := by
    decide +kernel
  obtain ⟨taken, kept, -, -⟩ := height_of_visionPosition a clock poseAndField core started
  exact ⟨started, taken, kept (fun _ _ he => silent _ he rfl) fun _ he => silent _ he rfl⟩

/-- With a barometric height at the horizon the preference for it has the last word; with one that
is only recent, and a pose too uncertain to count as a height, a height reset has. -/
theorem height_after_visionPosition :
    let a := alignedWith visionAided
    let core : GatedFilter Float := .levelled
    let preferred := a.update ⟨1010000, 910000⟩ (poseBesideBaro 0.1 900000) core
    let reset := a.update ⟨1010000, 910000⟩ (poseBesideBaro 6.0 950000) core
    Arbiter.new visionAided = .ok (.ofSettings visionAided) ∧
      (.visionPositionStarted ∈ preferred.events ∧
        preferred.arbiter.standing.status.height = .baro) ∧
      .visionPositionStarted ∈ reset.events ∧ reset.arbiter.standing.status.height = .baro := by
  refine ⟨rfl, ⟨Event.mem_visionPositionStarted ?_, ?_⟩, Event.mem_visionPositionStarted ?_, ?_⟩ <;>
    decide +kernel

end NavArbiter

/-
# Which stage announces what

Each event is announced by one stage of the cycle, whatever the stage finds and however the core
answers.  So the events of a cycle fall apart by stage (`settled_events`), and what a stage says of
itself holds of its part of a whole cycle (`mem_settled_iff`).

Flow and satellite navigation decide between actions that exclude each other and announce at most
one of them in a cycle.  That a start and a failure of satellite navigation never meet in a cycle
(`gps_event_unique`) is not seen from single decisions, each of which looks at the status before
the cycle.
-/
import Mathlib.Data.List.TakeWhile
import NavArbiter.Proofs.StatusLaws

namespace NavArbiter

/-- The stages of a cycle that announce something. -/
inductive Stage where
  | tilt
  | vision
  | flow
  | gps
  | height
  | mag
  deriving DecidableEq

/-- The stage that announces an event. -/
def Event.stage {α : Type} : Event α → Stage
  | .tiltAligned _ => .tilt
  | .visionPositionStarted => .vision
  | .visionPositionResetFailed => .vision
  | .visionYawStarted _ => .vision
  | .flowStarted => .flow
  | .flowDisabled => .flow
  | .flowLost _ => .flow
  | .gpsStarted => .gps
  | .gpsActivationFailed => .gps
  | .gpsDisabled => .gps
  | .gpsLost _ => .gps
  | .gpsResetToMeasurement => .gps
  | .gpsResetFailed => .gps
  | .inertialFaultSuspected => .height
  | .heightReset _ _ => .height
  | .heightResetDenied _ => .height
  | .heightResetFailed _ _ => .height
  | .heightSourceSelected _ => .height
  | .magModeChanged _ _ => .mag
  | .declinationFusion _ => .mag
  | .windValidity _ => .mag

/-- What the other stages announce is of neither flow nor satellite navigation. -/
theorem Event.foreign {α : Type} {e : Event α} {g : Stage} (h : e.stage = g)
    (hf : g ≠ .flow := by decide) (hg : g ≠ .gps := by decide) :
    e.stage ≠ .flow ∧ e.stage ≠ .gps := by
  rw [h]
  exact ⟨hf, hg⟩

/-- An event that nothing else shares its name with is found by its name. -/
theorem Event.mem_of_name {α : Type} {es : List (Event α)} (e : Event α)
    (unique : ∀ e' : Event α, e'.name = e.name → e' = e) (h : e.name ∈ es.map Event.name) :
    e ∈ es := by
  obtain ⟨e', he, hn⟩ := List.mem_map.mp h
  rwa [unique e' hn] at he

theorem Event.eq_gpsStarted {α : Type} {e : Event α}
    (h : e.name = (Event.gpsStarted : Event α).name) : e = .gpsStarted := by
  cases e <;> simp_all [Event.name]

theorem Event.eq_gpsActivationFailed {α : Type} {e : Event α}
    (h : e.name = (Event.gpsActivationFailed : Event α).name) : e = .gpsActivationFailed := by
  cases e <;> simp_all [Event.name]

/-- What holds of an event holds throughout a list of at most that event. -/
theorem Event.forall_of_at_most {α : Type} {P : Event α → Prop} {es : List (Event α)}
    {e : Event α} (h : es = [] ∨ es = [e]) (he : P e) : ∀ e' ∈ es, P e' := by
  rcases h with rfl | rfl
  · exact List.forall_mem_nil _
  · exact List.forall_mem_singleton.mpr he

/-- All events of an outcome are of one stage. -/
def Outcome.IsOf {α C : Type} (g : Stage) (o : Outcome α C) : Prop :=
  ∀ e ∈ o.events, e.stage = g

namespace Outcome.IsOf

variable {α C : Type} {g : Stage} {o : Outcome α C}

theorem of_nil (h : o.events = []) : o.IsOf g := by
  intro e he
  rw [h] at he
  exact absurd he List.not_mem_nil

theorem of_singleton {e : Event α} (h : o.events = [e]) (hg : e.stage = g) : o.IsOf g := by
  intro e' he
  rw [h] at he
  rw [List.mem_singleton.mp he]
  exact hg

theorem andThen {f : Standing α → C → Outcome α C} (h : o.IsOf g)
    (hf : (f o.standing o.core).IsOf g) : (o.andThen f).IsOf g :=
  fun e he => (List.mem_append.mp he).elim (h e) (hf e)

end Outcome.IsOf

section Stages

variable {α C : Type} [Scalar α] [Estimator α C] (x : Context α) (s : Standing α) (c : C)

theorem watchTilt_isOf : (Arbiter.watchTilt x s c).IsOf .tilt := by
  unfold Arbiter.watchTilt
  split
  · exact .of_singleton rfl rfl
  · exact .of_nil rfl

omit [Scalar α] in
theorem takePosition_events : (Vision.takePosition x s c).events = [] ∨
    (Vision.takePosition x s c).events = [.visionPositionStarted] ∨
    (Vision.takePosition x s c).events = [.visionPositionResetFailed] := by
  unfold Vision.takePosition
  dsimp only
  split
  · split
    · exact Or.inr (Or.inl rfl)
    · exact Or.inr (Or.inr rfl)
  · exact Or.inl rfl

omit [Scalar α] in
theorem takePosition_isOf : (Vision.takePosition x s c).IsOf .vision := by
  rcases takePosition_events x s c with h | h | h
  · exact .of_nil h
  · exact .of_singleton h rfl
  · exact .of_singleton h rfl

theorem takeYaw_events : (Vision.takeYaw x s c).events = [] ∨
    ∃ turn, (Vision.takeYaw x s c).events = [.visionYawStarted turn] := by
  unfold Vision.takeYaw
  split
  · split
    · exact Or.inl rfl
    · exact Or.inr ⟨_, rfl⟩
  · exact Or.inl rfl

theorem takeYaw_isOf : (Vision.takeYaw x s c).IsOf .vision := by
  rcases takeYaw_events x s c with h | ⟨turn, h⟩
  · exact .of_nil h
  · exact .of_singleton h rfl

theorem vision_isOf : (Vision.control x s c).IsOf .vision :=
  (takePosition_isOf x s c).andThen (takeYaw_isOf x _ _)

theorem flow_events : (Flow.control x s c).events = [] ∨
    ∃ e, (Flow.control x s c).events = [e] ∧ e.stage = .flow := by
  unfold Flow.control Flow.start
  dsimp only
  split
  · split
    · split
      · exact Or.inr ⟨_, rfl, rfl⟩
      · exact Or.inl rfl
    · split
      · exact Or.inr ⟨_, rfl, rfl⟩
      · exact Or.inl rfl
  · split
    · exact Or.inr ⟨_, rfl, rfl⟩
    · exact Or.inl rfl

theorem flow_isOf : (Flow.control x s c).IsOf .flow := by
  rcases flow_events x s c with h | ⟨e, h, hs⟩
  · exact .of_nil h
  · exact .of_singleton h hs

omit [Scalar α] in
theorem gpsStart_events : (Gps.start x s c).events = [] ∨
    ∃ e, (Gps.start x s c).events = [e] ∧ e.stage = .gps := by
  unfold Gps.start Gps.activate
  dsimp only
  split
  · refine Or.inr ?_
    simp only [Outcome.andThen, List.nil_append]
    split
    · exact ⟨_, rfl, rfl⟩
    · split <;> exact ⟨_, rfl, rfl⟩
  · exact Or.inl rfl

theorem gps_events : (Gps.control x s c).events = [] ∨
    ∃ e, (Gps.control x s c).events = [e] ∧ e.stage = .gps := by
  unfold Gps.control Gps.recover
  dsimp only
  split
  · split
    · split
      · refine Or.inr ?_
        split
        · split <;> exact ⟨_, rfl, rfl⟩
        · exact ⟨_, rfl, rfl⟩
      · exact Or.inl rfl
    · split
      · exact gpsStart_events x s c
      · exact Or.inl rfl
  · split
    · exact Or.inr ⟨_, rfl, rfl⟩
    · exact Or.inl rfl

theorem gps_isOf : (Gps.control x s c).IsOf .gps := by
  rcases gps_events x s c with h | ⟨e, h, hs⟩
  · exact .of_nil h
  · exact .of_singleton h hs

theorem watchInertial_events : (Height.watchInertial x s c).events = [] ∨
    (Height.watchInertial x s c).events = [.inertialFaultSuspected] := by
  unfold Height.watchInertial
  split
  · exact Or.inr rfl
  · exact Or.inl rfl

/-- A height source that timed out is denied a reset, or is reset, or the reset fails. -/
theorem watchTimeout_events : (Height.watchTimeout x s c).events = [] ∨
    ∃ e, (Height.watchTimeout x s c).events = [e] ∧ (e = .heightResetDenied x.before.height ∨
      ∃ target, e = .heightReset x.before.height target ∨
        e = .heightResetFailed x.before.height target) := by
  unfold Height.watchTimeout Height.resetTo
  dsimp only
  split
  · split
    · exact Or.inr ⟨_, rfl, Or.inl rfl⟩
    · next target _ =>
      split
      · exact Or.inr ⟨_, rfl, Or.inr ⟨target, Or.inl rfl⟩⟩
      · exact Or.inr ⟨_, rfl, Or.inr ⟨target, Or.inr rfl⟩⟩
  · exact Or.inl rfl

theorem watchTimeout_isOf : (Height.watchTimeout x s c).IsOf .height := by
  rcases watchTimeout_events x s c with h | ⟨e, h, rfl | ⟨target, rfl | rfl⟩⟩
  · exact .of_nil h
  · exact .of_singleton h rfl
  · exact .of_singleton h rfl
  · exact .of_singleton h rfl

omit [Scalar α] [Estimator α C] in
theorem selectPreferred_events : (Height.selectPreferred x s c).events = [] ∨
    (Height.selectPreferred x s c).events = [.heightSourceSelected x.settings.preferredHeight] := by
  unfold Height.selectPreferred
  dsimp only
  split
  · exact Or.inr rfl
  · exact Or.inl rfl

omit [Scalar α] in
theorem noteGround_events : (Height.noteGround x s c).events = [] := by
  unfold Height.noteGround
  split <;> rfl

/-- The height controller announces a suspected inertial fault, what the watch over timeouts does,
and a return to the preferred source. -/
theorem height_events_eq : ∃ last, (Height.control x s c).events =
      (Height.watchInertial x s c).events ++
        (Height.watchTimeout x (Height.watchInertial x s c).standing
          (Height.watchInertial x s c).core).events ++ last ∧
    (last = [] ∨ last = [.heightSourceSelected x.settings.preferredHeight]) := by
  let inertial := Height.watchInertial x s c
  let timeout := Height.watchTimeout x inertial.standing inertial.core
  let preferred := Height.selectPreferred x timeout.standing timeout.core
  refine ⟨preferred.events, ?_, selectPreferred_events x _ _⟩
  have ground := noteGround_events x preferred.standing preferred.core
  show inertial.events ++ timeout.events ++ preferred.events ++
    (Height.noteGround x preferred.standing preferred.core).events = _
  rw [ground, List.append_nil]

/-- What the watch over timeouts announces stands between at most one event before it and at most
one after it. -/
theorem height_events : ∃ s' c' first last, (Height.control x s c).events =
      first ++ (Height.watchTimeout x s' c' : Outcome α C).events ++ last ∧
    (first = [] ∨ first = [.inertialFaultSuspected]) ∧
    (last = [] ∨ last = [.heightSourceSelected x.settings.preferredHeight]) := by
  obtain ⟨last, events, hlast⟩ := height_events_eq x s c
  exact ⟨_, _, _, last, events, watchInertial_events x s c, hlast⟩

theorem height_isOf : (Height.control x s c).IsOf .height := by
  obtain ⟨s', c', first, last, events, hfirst, hlast⟩ := height_events x s c
  intro e he
  rw [events, List.mem_append, List.mem_append] at he
  rcases he with (he | he) | he
  · exact Event.forall_of_at_most (P := fun e => e.stage = .height) hfirst rfl e he
  · exact watchTimeout_isOf x s' c' e he
  · exact Event.forall_of_at_most (P := fun e => e.stage = .height) hlast rfl e he

theorem settle_isOf : (Mag.settle x s c).IsOf .mag := by
  unfold Mag.settle Mag.enter
  dsimp only
  split
  · exact .of_nil rfl
  · split <;> exact .of_nil rfl

end Stages

/-! ## The cycle -/

section Cycle

variable {α C : Type} [Scalar α] [Estimator α C]

/-- The stage by itself. -/
def Stage.run (x : Context α) (s : Standing α) (c : C) : Stage → Outcome α C
  | .tilt => Arbiter.watchTilt x s c
  | .vision => Vision.control x s c
  | .flow => Flow.control x s c
  | .gps => Gps.control x s c
  | .height => Height.control x s c
  | .mag => Mag.settle x s c

/-- The stages, in their order. -/
def Stage.all : List Stage := [.tilt, .vision, .flow, .gps, .height, .mag]

theorem run_isOf (g : Stage) (x : Context α) (s : Standing α) (c : C) : (g.run x s c).IsOf g := by
  cases g with
  | tilt => exact watchTilt_isOf x s c
  | vision => exact vision_isOf x s c
  | flow => exact flow_isOf x s c
  | gps => exact gps_isOf x s c
  | height => exact height_isOf x s c
  | mag => exact settle_isOf x s c

/-- The cycle up to a stage. -/
def Stage.upTo (x : Context α) (s : Standing α) (c : C) (g : Stage) : Outcome α C :=
  (Stage.all.takeWhile (· ≠ g)).foldl (fun o k => o.andThen fun s c => k.run x s c)
    (Arbiter.refreshDeclination s c)

/-- The stage as it runs in a cycle. -/
def Stage.inCycle (x : Context α) (s : Standing α) (c : C) (g : Stage) : Outcome α C :=
  g.run x (g.upTo x s c).standing (g.upTo x s c).core

theorem settled_eq_andThen (x : Context α) (s : Standing α) (c : C) :
    Arbiter.settled x s c = (Stage.mag.upTo x s c).andThen (Mag.settle x) := rfl

/-- What every other stage keeps of a standing still holds when a stage runs. -/
theorem upTo_keeps {P : Standing α → Prop} {x : Context α} {s : Standing α} (c : C) (g : Stage)
    (step : ∀ k : Stage, k ≠ g → ∀ s (c : C), P s → P (k.run x s c).standing) (start : P s) :
    P (g.upTo x s c).standing := by
  have kept : ∀ (ks : List Stage) (o : Outcome α C), (∀ k ∈ ks, k ≠ g) → P o.standing →
      P (ks.foldl (fun o k => o.andThen fun s c => k.run x s c) o).standing := by
    intro ks
    induction ks with
    | nil => exact fun _ _ h => h
    | cons k ks ih =>
        intro o hks h
        refine ih _ (fun l hl => hks l (List.mem_cons_of_mem k hl)) ?_
        exact step k (hks k (List.mem_cons_self ..)) o.standing o.core h
  refine kept _ _ (fun k hk => ?_) start
  simpa using List.mem_takeWhile_imp hk

/-- A cycle announces what its stages announce, one after another. -/
theorem settled_events (x : Context α) (s : Standing α) (c : C) :
    (Arbiter.settled x s c).events = Stage.all.flatMap fun g => (g.inCycle x s c).events := by
  simp [Arbiter.settled, Outcome.andThen, Stage.all, Stage.inCycle, Stage.run, Stage.upTo,
    Arbiter.refreshDeclination]

/-- What a stage asks for is asked for without a break by the cycle. -/
theorem requests_infix_settled (x : Context α) (s : Standing α) (c : C) (g : Stage) :
    (g.inCycle x s c).requests <:+: (Arbiter.settled x s c).requests := by
  have asked : (Arbiter.settled x s c).requests =
      .declination :: Stage.all.flatMap fun g => (g.inCycle x s c).requests := by
    simp [Arbiter.settled, Outcome.andThen, Stage.all, Stage.inCycle, Stage.run, Stage.upTo,
      Arbiter.refreshDeclination]
  have listed : g ∈ Stage.all := by cases g <;> decide
  obtain ⟨first, last, split⟩ := List.append_of_mem listed
  rw [asked, split]
  refine ⟨.declination :: first.flatMap fun g => (g.inCycle x s c).requests,
    last.flatMap fun g => (g.inCycle x s c).requests, ?_⟩
  simp [List.flatMap_append, List.flatMap_cons]

variable {x : Context α} {s : Standing α} {c : C} {e e' : Event α}

/-- So an event is announced in a cycle if its own stage announces it there. -/
theorem mem_settled_iff {g : Stage} (hs : e.stage = g) :
    e ∈ (Arbiter.settled x s c).events ↔ e ∈ (g.inCycle x s c).events := by
  rw [settled_events, List.mem_flatMap]
  constructor
  · rintro ⟨k, -, he⟩
    have same : g = k := hs.symm.trans (run_isOf k x _ _ e he)
    rw [same]
    exact he
  · exact fun he => ⟨g, by cases g <;> decide, he⟩

/-- No two events of satellite navigation meet in a cycle. -/
theorem gps_event_unique (he : e ∈ (Arbiter.settled x s c).events)
    (he' : e' ∈ (Arbiter.settled x s c).events) (hs : e.stage = .gps) (hs' : e'.stage = .gps) :
    e = e' := by
  let found := Stage.gps.upTo x s c
  have h₁ : e ∈ (Gps.control x found.standing found.core).events := (mem_settled_iff hs).mp he
  have h₂ : e' ∈ (Gps.control x found.standing found.core).events := (mem_settled_iff hs').mp he'
  rcases gps_events x found.standing found.core with hn | ⟨e₀, hn, -⟩
  · rw [hn] at h₁
    exact absurd h₁ List.not_mem_nil
  · rw [hn] at h₁ h₂
    rw [List.mem_singleton.mp h₁, List.mem_singleton.mp h₂]

omit [Scalar α] in
theorem stage_of_mem_announce {before now : Status} (he : e ∈ Mag.announce before now) :
    e.stage = .mag := by
  rcases mem_announce he with rfl | rfl | rfl <;> rfl

/-- Only the magnetometer stage has anything to add at the end of a cycle. -/
theorem mem_update_events {a : Arbiter α} {clock : Clock} {h : Histories α} (g : Stage)
    (hs : e.stage = g) (hg : g ≠ .mag := by decide) : e ∈ (a.update clock h c).events ↔
      e ∈ (Arbiter.settled (a.context clock h) a.standing c).events := by
  rw [Arbiter.update_eq]
  refine ⟨fun he => (List.mem_append.mp he).resolve_right fun ha => hg ?_, fun he => ?_⟩
  · exact hs.symm.trans (stage_of_mem_announce ha)
  · exact List.mem_append_left _ he

end Cycle

end NavArbiter

/-
# Latches

Tilt alignment and the two take-overs by vision are set once and never given back.  Each is
announced when it is set, so a journal announces it once if it is set and not at all if it is not
(`announced_journal`); everything else about how often and how long follows by counting.

    latch             set by               waits for
    tilt              the watch on tilt    its own flag, as the cycle has it
    vision position   vision               its own flag, as it was before the cycle
    vision yaw        vision               its own flag, as it was before the cycle

Vision looks at the flags from before the cycle, so a single decision does not show that it starts
once.  It does because nothing before it in the cycle touches them.

Yaw is written in five places.  Once vision observes yaw on aligned tilt, each of the other four
waits for something that no longer comes: the watch on tilt for tilt, flow and satellite navigation
for yaw that is not aligned, and the magnetometer for vision to give yaw back
(`visionOwnsYaw_decision`).
-/
import NavArbiter.Proofs.Flight
import NavArbiter.Proofs.Stages

namespace NavArbiter

/-- What is set once and stays set. -/
inductive Latch where
  | tilt
  | visionPosition
  | visionYaw
  deriving DecidableEq

/-- The latch that an event announces. -/
def Event.latch? {α : Type} : Event α → Option Latch
  | .tiltAligned _ => some .tilt
  | .visionPositionStarted => some .visionPosition
  | .visionYawStarted _ => some .visionYaw
  | _ => none

namespace Latch

variable {α : Type}

/-- The latch is set in a status. -/
def isSet : Latch → Status → Bool
  | .tilt, t => t.tiltAligned
  | .visionPosition, t => t.visionPosition
  | .visionYaw, t => t.visionYaw

/-- How many of the events announce the latch. -/
def announced (l : Latch) (es : List (Event α)) : Nat := es.countP fun e => e.latch? = some l

theorem announced_append (l : Latch) (es fs : List (Event α)) :
    l.announced (es ++ fs) = l.announced es + l.announced fs :=
  List.countP_append

theorem announced_eq_zero {l : Latch} {es : List (Event α)} (h : ∀ e ∈ es, e.latch? = none) :
    l.announced es = 0 := by
  refine List.countP_eq_zero.mpr fun e he hl => ?_
  rw [h e he] at hl
  cases of_decide_eq_true hl

theorem announced_pos_iff {l : Latch} {es : List (Event α)} :
    0 < l.announced es ↔ ∃ e ∈ es, e.latch? = some l := by
  simp [announced, List.countP_pos_iff]

end Latch

theorem Event.latch?_eq_tilt {α : Type} {e : Event α} :
    e.latch? = some .tilt ↔ ∃ yaw, e = .tiltAligned yaw := by
  cases e <;> simp [latch?]

theorem Event.latch?_eq_visionPosition {α : Type} {e : Event α} :
    e.latch? = some .visionPosition ↔ e = .visionPositionStarted := by
  cases e <;> simp [latch?]

theorem Event.latch?_eq_visionYaw {α : Type} {e : Event α} :
    e.latch? = some .visionYaw ↔ ∃ turn, e = .visionYawStarted turn := by
  cases e <;> simp [latch?]

/-- Latches are announced by the first two stages. -/
theorem Event.latch?_eq_none {α : Type} {e : Event α} (ht : e.stage ≠ .tilt)
    (hv : e.stage ≠ .vision) : e.latch? = none := by
  cases e <;> first | rfl | exact absurd rfl ht | exact absurd rfl hv

variable {α C : Type}

/-- From a standing to an outcome, each latch that was set stayed set, and each that was not is
set now if it was announced, and that once. -/
def Outcome.Latches (s : Standing α) (o : Outcome α C) : Prop :=
  ∀ l : Latch,
    l.announced o.events + (l.isSet s.status).toNat = (l.isSet o.standing.status).toNat

theorem Outcome.Latches.andThen {s : Standing α} {o : Outcome α C}
    {f : Standing α → C → Outcome α C} (h : o.Latches s)
    (hf : (f o.standing o.core).Latches o.standing) : (o.andThen f).Latches s := by
  intro l
  have first := h l
  have second := hf l
  have both : l.announced (o.andThen f).events =
      l.announced o.events + l.announced (f o.standing o.core).events := l.announced_append _ _
  have last : (o.andThen f).standing = (f o.standing o.core).standing := rfl
  rw [both, last]
  omega

/-- An outcome whose one event announces the one latch that it sets. -/
theorem Outcome.Latches.of_set {s : Standing α} {o : Outcome α C} {e : Event α} {l : Latch}
    (events : o.events = [e]) (announces : e.latch? = some l) (unset : l.isSet s.status = false)
    (set : l.isSet o.standing.status = true)
    (others : ∀ k, k ≠ l → k.isSet o.standing.status = k.isSet s.status) : o.Latches s := by
  intro k
  by_cases hk : k = l
  · subst hk
    simp [Latch.announced, events, announces, unset, set]
  · simp [Latch.announced, events, announces, Ne.symm hk, others k hk]

/-- An outcome without a latch among its events that leaves the latches alone. -/
theorem Outcome.Latches.of_silent {s : Standing α} {o : Outcome α C}
    (silent : ∀ e ∈ o.events, e.latch? = none)
    (kept : ∀ l : Latch, l.isSet o.standing.status = l.isSet s.status) : o.Latches s := by
  intro l
  rw [Latch.announced_eq_zero silent, kept l, Nat.zero_add]

/-- A latch is set in the end if it was before or is among the events. -/
theorem Outcome.Latches.isSet_iff {s : Standing α} {o : Outcome α C} (h : o.Latches s)
    (l : Latch) : l.isSet o.standing.status = true ↔
      l.isSet s.status = true ∨ ∃ e ∈ o.events, e.latch? = some l := by
  have balance := h l
  rw [← Latch.announced_pos_iff]
  cases before : l.isSet s.status <;> cases after : l.isSet o.standing.status <;>
    rw [before, after] at balance <;> simp at balance ⊢ <;> omega

variable [Scalar α] [Estimator α C]

/-! ## Stages that set no latch -/

section Silent

variable {x : Context α} {s : Standing α} {c : C} {o : Outcome α C}

omit [Scalar α] [Estimator α C] in
theorem isSet_decideStatus (x : Context α) (mode : MagMode) (s : Standing α)
    (h : s.status.visionYaw = false) (l : Latch) :
    l.isSet (Mag.decideStatus x mode s) = l.isSet s.status := by
  have hy := decideStatus_yaw x mode h
  obtain ⟨yaw, declination, wind, hf⟩ := decideStatus_frame x mode s
  rw [hf] at hy ⊢
  cases l with
  | tilt | visionPosition => rfl
  | visionYaw =>
      subst hy
      exact h.symm

/-- A decision that announces no latch touches none. -/
theorem isSet_decision (h : Decision x s c o) (silent : ∀ e ∈ o.events, e.latch? = none)
    (l : Latch) : l.isSet o.standing.status = l.isSet s.status := by
  cases h with
  | alignTilt | startVisionPosition | startVisionYaw =>
      cases silent _ (List.mem_singleton_self _)
  | settleMag _ hv => exact isSet_decideStatus x _ s hv l
  | enterThreeAxis _ granted hv =>
      have attempt : l.isSet (s.setYawAligned granted).status = l.isSet s.status := by
        cases l <;> rfl
      exact (isSet_decideStatus x _ (s.setYawAligned granted) hv l).trans attempt
  | _ => cases l <;> rfl

theorem isSet_decisions (h : Decisions x s c o) :
    (∀ e ∈ o.events, e.latch? = none) →
      ∀ l : Latch, l.isSet o.standing.status = l.isSet s.status := by
  induction h with
  | none => exact fun _ _ => rfl
  | @more o p _ hd ih =>
      intro silent l
      have first := ih (fun e he => silent e (List.mem_append_left _ he)) l
      have last := isSet_decision (o := p) hd (fun e he => silent e (List.mem_append_right _ he)) l
      exact last.trans first

/-- So a stage after the first two keeps the balance. -/
theorem latches_of_isOf {g : Stage} (hd : Decisions x s c o) (h : o.IsOf g)
    (ht : g ≠ .tilt := by decide) (hv : g ≠ .vision := by decide) : o.Latches s := by
  have silent : ∀ e ∈ o.events, e.latch? = none := fun e he =>
    Event.latch?_eq_none (fun hs => ht ((h e he).symm.trans hs))
      fun hs => hv ((h e he).symm.trans hs)
  exact .of_silent silent (isSet_decisions hd silent)

end Silent

/-! ## The watch on tilt, and vision -/

section Stages

variable (x : Context α) (s : Standing α) (c : C)

theorem watchTilt_latches : (Arbiter.watchTilt x s c).Latches s := by
  unfold Arbiter.watchTilt
  split
  · next h =>
    rw [Bool.and_eq_true, Bool.not_eq_true'] at h
    refine .of_set (l := .tilt) rfl rfl h.1 rfl fun k hk => ?_
    cases k with
    | tilt => exact absurd rfl hk
    | visionPosition | visionYaw => rfl
  · exact .of_silent (List.forall_mem_nil _) fun _ => rfl

/-- What the watch on tilt leaves of the flags that vision looks at. -/
theorem watchTilt_vision :
    let t := (Arbiter.watchTilt x s c).standing.status
    t.visionPosition = s.status.visionPosition ∧ t.visionYaw = s.status.visionYaw := by
  unfold Arbiter.watchTilt
  split <;> exact ⟨rfl, rfl⟩

omit [Scalar α] in
theorem takePosition_latches (h : s.status.visionPosition = x.before.visionPosition) :
    (Vision.takePosition x s c).Latches s := by
  unfold Vision.takePosition
  split
  · next hw =>
    simp only [Vision.wantsPosition, Bool.and_eq_true, Bool.not_eq_true'] at hw
    have unset : s.status.visionPosition = false := h.trans hw.1.1.1.2
    dsimp only
    split
    · refine .of_set (l := .visionPosition) rfl rfl unset rfl fun k hk => ?_
      cases k with
      | visionPosition => exact absurd rfl hk
      | tilt | visionYaw => rfl
    · exact .of_silent (List.forall_mem_singleton.mpr rfl) fun _ => rfl
  · exact .of_silent (List.forall_mem_nil _) fun _ => rfl

omit [Scalar α] in
theorem takePosition_visionYaw :
    (Vision.takePosition x s c).standing.status.visionYaw = s.status.visionYaw := by
  unfold Vision.takePosition
  dsimp only
  split
  · split <;> rfl
  · rfl

theorem takeYaw_latches (h : s.status.visionYaw = x.before.visionYaw) :
    (Vision.takeYaw x s c).Latches s := by
  unfold Vision.takeYaw
  split
  · next hw =>
    simp only [Vision.wantsYaw, Bool.and_eq_true, Bool.not_eq_true'] at hw
    have unset : s.status.visionYaw = false := h.trans hw.1.1.2
    split
    · exact .of_silent (List.forall_mem_nil _) fun _ => rfl
    · refine .of_set (l := .visionYaw) rfl rfl unset rfl fun k hk => ?_
      cases k with
      | visionYaw => exact absurd rfl hk
      | tilt | visionPosition => rfl
  · exact .of_silent (List.forall_mem_nil _) fun _ => rfl

theorem vision_latches (hp : s.status.visionPosition = x.before.visionPosition)
    (hy : s.status.visionYaw = x.before.visionYaw) : (Vision.control x s c).Latches s := by
  have yaw := (takePosition_visionYaw x s c).trans hy
  exact (takePosition_latches x s c hp).andThen (takeYaw_latches x _ _ yaw)

end Stages

/-! ## Cycles and runs -/

theorem settled_latches {x : Context α} {s : Standing α} (c : C) (hx : s.status = x.before) :
    (Arbiter.settled x s c).Latches s := by
  have h₀ : (Arbiter.refreshDeclination s c).Latches s :=
    .of_silent (List.forall_mem_nil _) fun _ => rfl
  have h₁ := h₀.andThen (watchTilt_latches x _ _)
  obtain ⟨position, yaw⟩ := watchTilt_vision x s (Estimator.refreshDeclination c)
  rw [hx] at position yaw
  have h₂ := h₁.andThen (vision_latches x _ _ position yaw)
  have h₃ := h₂.andThen (latches_of_isOf (flow_decisions x _ _) (flow_isOf x _ _))
  have h₄ := h₃.andThen (latches_of_isOf (gps_decisions x _ _) (gps_isOf x _ _))
  have h₅ := h₄.andThen (latches_of_isOf (height_decisions x _ _) (height_isOf x _ _))
  exact h₅.andThen (latches_of_isOf (settle_decisions x _ _) (settle_isOf x _ _))

/-- A call announces a latch if and only if it sets it. -/
theorem announced_call (l : Latch) (a : Arbiter α) (k : Call α C) :
    l.announced (a.eventsOf k) + (l.isSet a.standing.status).toNat =
      (l.isSet (a.call k).standing.status).toNat := by
  cases k with
  | update clock h c =>
      rw [Arbiter.call, Arbiter.eventsOf, Arbiter.update_eq, l.announced_append]
      have silent : l.announced
          (Mag.announce (α := α) (a.context clock h).before
            (Arbiter.settled (a.context clock h) a.standing c).standing.status) = 0 :=
        Latch.announced_eq_zero fun e he => by
          rcases mem_announce he with rfl | rfl | rfl <;> rfl
      rw [silent]
      exact settled_latches (x := a.context clock h) c rfl l
  | setInAir inAir => cases l <;> exact Nat.zero_add _
  | writeHealth h => exact Nat.zero_add _

/-- Over a run, the announcements of a latch make up for what it was not set before. -/
theorem announced_journal (l : Latch) : ∀ (a : Arbiter α) (calls : List (Call α C)),
    l.announced (a.journal calls) + (l.isSet a.standing.status).toNat =
      (l.isSet (a.after calls).standing.status).toNat
  | a, [] => Nat.zero_add _
  | a, k :: ks => by
      have first := announced_call l a k
      have rest := announced_journal l (a.call k) ks
      rw [Arbiter.journal, l.announced_append]
      have step : a.after (k :: ks) = (a.call k).after ks := rfl
      rw [step]
      omega

theorem isSet_after {l : Latch} {a : Arbiter α} (calls : List (Call α C))
    (h : l.isSet a.standing.status = true) : l.isSet (a.after calls).standing.status = true := by
  have balance := announced_journal l a calls
  rw [h] at balance
  cases hl : l.isSet (a.after calls).standing.status with
  | true => rfl
  | false =>
      rw [hl] at balance
      simp at balance

/-- A latch that a run does not announce is as it was. -/
theorem isSet_after_of_silent {l : Latch} {a : Arbiter α} (calls : List (Call α C))
    (silent : ∀ e ∈ a.journal calls, e.latch? ≠ some l) :
    l.isSet (a.after calls).standing.status = l.isSet a.standing.status := by
  have none : l.announced (a.journal calls) = 0 := by
    refine Nat.eq_zero_of_not_pos fun some => ?_
    obtain ⟨e, he, hl⟩ := Latch.announced_pos_iff.mp some
    exact silent e he hl
  have balance := announced_journal l a calls
  rw [none, Nat.zero_add] at balance
  cases before : l.isSet a.standing.status <;>
    cases after : l.isSet (a.after calls).standing.status <;> simp_all

/-! ## When tilt is aligned -/

/-- A cycle that finds the tilt variances of its core small enough. -/
def Call.findsTilt (settings : Settings α) : Call α C → Bool
  | .update _ _ c => Arbiter.tiltConverged settings (Estimator.refreshDeclination c)
  | .setInAir _ => false
  | .writeHealth _ => false

/-- Tilt is announced in a cycle that finds it and did not have it. -/
theorem tilt_announced_iff {x : Context α} {s : Standing α} {c : C} :
    (∃ e ∈ (Arbiter.settled x s c).events, e.latch? = some .tilt) ↔
      s.status.tiltAligned = false ∧
        Arbiter.tiltConverged x.settings (Estimator.refreshDeclination c) = true := by
  -- an event about tilt is one of the watch on it
  have watched : (∃ e ∈ (Arbiter.settled x s c).events, e.latch? = some .tilt) ↔
      ∃ e ∈ (Arbiter.watchTilt x s (Estimator.refreshDeclination c)).events,
        e.latch? = some .tilt := by
    refine exists_congr fun e => and_congr_left fun hl => ?_
    obtain ⟨yaw, rfl⟩ := Event.latch?_eq_tilt.mp hl
    exact mem_settled_iff (g := .tilt) rfl
  rw [watched, Arbiter.watchTilt, ← Bool.not_eq_true', ← Bool.and_eq_true]
  split
  · next h => exact ⟨fun _ => h, fun _ => ⟨_, List.mem_singleton_self _, rfl⟩⟩
  · next h => exact ⟨fun ⟨_, he, _⟩ => absurd he List.not_mem_nil, fun hn => absurd hn h⟩

/-- Tilt is aligned after a call if it was before, or if the call is a cycle that finds it. -/
theorem tilt_after_call (a : Arbiter α) (k : Call α C) :
    (a.call k).standing.status.tiltAligned = true ↔
      a.standing.status.tiltAligned = true ∨ k.findsTilt a.settings = true := by
  cases k with
  | update clock h c =>
      have set_iff := (settled_latches (x := a.context clock h) c rfl).isSet_iff .tilt
      rw [tilt_announced_iff] at set_iff
      rw [Arbiter.call, Arbiter.update_eq]
      refine set_iff.trans ?_
      show a.standing.status.tiltAligned = true ∨ _ ↔ a.standing.status.tiltAligned = true ∨ _
      cases a.standing.status.tiltAligned with
      | true => simp
      | false => simp [Call.findsTilt, Arbiter.context]
  | setInAir inAir => exact ⟨Or.inl, fun h => h.resolve_right Bool.false_ne_true⟩
  | writeHealth h => exact ⟨Or.inl, fun h => h.resolve_right Bool.false_ne_true⟩

/-- Tilt is aligned after a run if it was before, or if a cycle of the run finds it. -/
theorem tilt_after : ∀ (a : Arbiter α) (calls : List (Call α C)),
    (a.after calls).standing.status.tiltAligned = true ↔
      a.standing.status.tiltAligned = true ∨ ∃ k ∈ calls, k.findsTilt a.settings = true
  | a, [] => by simp [Arbiter.after]
  | a, k :: ks => by
      have settings : (a.call k).settings = a.settings := settings_after a [k]
      have step : a.after (k :: ks) = (a.call k).after ks := rfl
      rw [step, tilt_after (a.call k) ks, tilt_after_call, settings, or_assoc]
      simp

/-- Over a run that began without it, tilt is announced in the first cycle that finds it. -/
theorem tilt_announced_first {a : Arbiter α} (unset : a.standing.status.tiltAligned = false)
    (calls : List (Call α C)) (clock : Clock) (samples : Histories α) (c : C) :
    (∃ yaw, .tiltAligned yaw ∈ ((a.after calls).update clock samples c).events) ↔
      (Call.update clock samples c).findsTilt a.settings = true ∧
        ∀ k ∈ calls, k.findsTilt a.settings = false := by
  let b := a.after calls
  have announced : (∃ yaw, .tiltAligned yaw ∈ (b.update clock samples c).events) ↔
      ∃ e ∈ (Arbiter.settled (b.context clock samples) b.standing c).events,
        e.latch? = some .tilt := by
    constructor
    · rintro ⟨yaw, he⟩
      exact ⟨_, (mem_update_events .tilt rfl).mp he, rfl⟩
    · rintro ⟨e, he, hl⟩
      obtain ⟨yaw, rfl⟩ := Event.latch?_eq_tilt.mp hl
      exact ⟨yaw, (mem_update_events .tilt rfl).mpr he⟩
  have unfound : b.standing.status.tiltAligned = false ↔
      ∀ k ∈ calls, k.findsTilt a.settings = false := by
    have found := tilt_after a calls
    rw [unset] at found
    rw [← Bool.not_eq_true, found]
    simp
  have settings : b.settings = a.settings := settings_after a calls
  rw [announced, tilt_announced_iff, unfound, and_comm, ← settings]
  rfl

/-! ## Yaw observed by vision -/

/-- Vision observes yaw on aligned tilt, yaw is aligned, and declination is not fused. -/
structure Status.VisionOwnsYaw (t : Status) : Prop where
  visionYaw : t.visionYaw = true
  tiltAligned : t.tiltAligned = true
  yawAligned : t.yawAligned = true
  declination : t.declination = false

section Decision

variable {x : Context α} {s : Standing α} {c : C} {o : Outcome α C}

/-- No decision takes yaw back from vision, and none asks for a heading. -/
theorem visionOwnsYaw_decision (hs : s.status.VisionOwnsYaw) (h : Decision x s c o) :
    o.standing.status.VisionOwnsYaw ∧ ∀ granted, .heading granted ∉ o.requests := by
  cases h with
  | alignTilt _ _ ht => cases ht.symm.trans hs.tiltAligned
  | alignYaw _ _ _ hy => cases hy.symm.trans hs.yawAligned
  | settleMag _ hv | enterThreeAxis _ _ hv => cases hv.symm.trans hs.visionYaw
  | startVisionYaw => exact ⟨⟨rfl, hs.tiltAligned, rfl, rfl⟩, by simp⟩
  | failGps _ _ _ _ hrs =>
      refine ⟨⟨hs.visionYaw, hs.tiltAligned, hs.yawAligned, hs.declination⟩, fun granted hr => ?_⟩
      rcases hrs with rfl | rfl <;> simp at hr
  | startFlow =>
      refine ⟨⟨hs.visionYaw, hs.tiltAligned, hs.yawAligned, hs.declination⟩, fun granted hr => ?_⟩
      split at hr <;> simp at hr
  | _ => exact ⟨⟨hs.visionYaw, hs.tiltAligned, hs.yawAligned, hs.declination⟩, by simp⟩

/-- From the take-over on, vision owns yaw within the cycle. -/
theorem visionOwnsYaw_settled (c : C) (hx : s.status = x.before) :
    (∃ turn, .visionYawStarted turn ∈ (Arbiter.settled x s c).events) →
      (Arbiter.settled x s c).standing.status.VisionOwnsYaw := by
  have kept := (Arbiter.settled_decisions x s c).keep
    (P := fun o => (x.before.tiltAligned = true → o.standing.status.tiltAligned = true) ∧
      ((∃ turn, .visionYawStarted turn ∈ o.events) → o.standing.status.VisionOwnsYaw))
    ⟨fun ht => hx ▸ ht, fun ⟨_, he⟩ => absurd he List.not_mem_nil⟩ ?_
  · exact kept.2
  rintro o p ⟨tilt, owns⟩ hd
  refine ⟨fun ht => ?_, fun ⟨turn, he⟩ => ?_⟩
  · rcases tilt_decision (o := p) hd with h | ⟨h, -⟩
    · exact h.trans (tilt ht)
    · exact h
  · rcases List.mem_append.mp he with he | he
    · exact (visionOwnsYaw_decision (o := p) (owns ⟨turn, he⟩) hd).1
    · cases hd with
      | startVisionYaw _ _ hw =>
          simp only [Vision.wantsYaw, Bool.and_eq_true] at hw
          exact ⟨rfl, tilt hw.1.2, rfl, rfl⟩
      | _ => simp at he

theorem visionOwnsYaw_kept (x : Context α) (c : C) (hs : s.status.VisionOwnsYaw) :
    let o := Arbiter.settled x s c
    o.standing.status.VisionOwnsYaw ∧ ∀ granted, .heading granted ∉ o.requests := by
  refine (Arbiter.settled_decisions x s c).keep
    (P := fun o => o.standing.status.VisionOwnsYaw ∧ ∀ granted, .heading granted ∉ o.requests)
    ⟨hs, fun _ => List.not_mem_nil⟩ ?_
  rintro o p ⟨owns, silent⟩ hd
  obtain ⟨owns', silent'⟩ := visionOwnsYaw_decision (o := p) owns hd
  exact ⟨owns', fun granted hr => (List.mem_append.mp hr).elim (silent granted) (silent' granted)⟩

end Decision

theorem visionOwnsYaw_call {a : Arbiter α} (h : a.standing.status.VisionOwnsYaw)
    (k : Call α C) : (a.call k).standing.status.VisionOwnsYaw := by
  cases k with
  | update clock samples c =>
      rw [Arbiter.call, Arbiter.update_eq]
      exact (visionOwnsYaw_kept (a.context clock samples) c h).1
  | setInAir _ => exact ⟨h.visionYaw, h.tiltAligned, h.yawAligned, h.declination⟩
  | writeHealth _ => exact h

/-! ## Runs -/

/-- In every run of a new arbiter: the alignment of tilt and the two take-overs by vision are each
announced once if they are in force and else not at all, and stay in force once they are.  Tilt is
announced in the first cycle that finds its variances small enough, and in no other.  From the cycle
on in which vision takes yaw over, yaw is aligned, no magnetometer mode is on and declination is not
fused, and no later cycle asks for a heading. -/
theorem latched {settings : Settings α} {a : Arbiter α} (h : Arbiter.new settings = .ok a)
    (calls : List (Call α C)) (clock : Clock) (samples : Histories α) (c : C) :
    let b := a.after calls
    let cycle := b.update clock samples c
    (∀ l : Latch,
      l.announced (a.journal calls) = (if l.isSet b.standing.status then 1 else 0) ∧
        ∀ later : List (Call α C), l.isSet b.standing.status = true →
          l.isSet (b.after later).standing.status = true) ∧
    ((∃ yaw, .tiltAligned yaw ∈ cycle.events) ↔
      (Call.update clock samples c).findsTilt settings = true ∧
        ∀ k ∈ calls, k.findsTilt settings = false) ∧
    ((∃ turn, .visionYawStarted turn ∈ cycle.events) →
      ∀ later : List (Call α C),
        let d := cycle.arbiter.after later
        d.standing.status.yawAligned = true ∧ d.standing.status.magMode = .off ∧
          d.standing.status.declination = false ∧
          ∀ clock' samples' (c' : C) granted,
            .heading granted ∉ (d.update clock' samples' c').requests) := by
  intro b cycle
  have new : a = Arbiter.ofSettings settings := Arbiter.eq_ofSettings_of_new h
  have unset : ∀ l : Latch, l.isSet a.standing.status = false := by
    rw [new]
    intro l
    cases l <;> rfl
  refine ⟨fun l => ⟨?_, fun later => isSet_after later⟩, ?_, ?_⟩
  · have balance := announced_journal l a calls
    rw [unset, Bool.toNat_false, Nat.add_zero] at balance
    rw [balance]
    cases l.isSet b.standing.status <;> rfl
  · have ofSettings : a.settings = settings := by rw [new]; rfl
    rw [← ofSettings]
    exact tilt_announced_first (unset .tilt) calls clock samples c
  · rintro ⟨turn, he⟩ later
    have started : cycle.arbiter.standing.status.VisionOwnsYaw := by
      have settled := visionOwnsYaw_settled (x := b.context clock samples) c rfl
        ⟨turn, (mem_update_events .vision rfl).mp he⟩
      simpa only [cycle, Arbiter.update_eq] using settled
    have owns : (cycle.arbiter.after later).standing.status.VisionOwnsYaw :=
      Arbiter.after_keeps (P := fun d => d.standing.status.VisionOwnsYaw)
        (fun _ k hd => visionOwnsYaw_call hd k) later started
    refine ⟨owns.yawAligned, Status.magMode_of_visionYaw owns.visionYaw, owns.declination, ?_⟩
    intro clock' samples' c' granted
    rw [Arbiter.update_eq]
    exact (visionOwnsYaw_kept _ c' owns).2 granted

/-- The tilt is found in the second cycle and vision takes over in the third; an hour later, with a
field there to ask a heading of, it still has yaw. -/
theorem latched_visionAided :
    let core : GatedFilter Float := .levelled
    let a : Arbiter Float := .ofSettings visionAided
    let calls : List (Call Float (GatedFilter Float)) :=
      [.update ⟨990000, 890000⟩ poseAndField (.ofSettings visionAided),
        .update ⟨1000000, 900000⟩ poseAndField core]
    let cycle := (a.after calls).update ⟨1010000, 910000⟩ poseAndField core
    let later : List (Call Float (GatedFilter Float)) :=
      [.setInAir true, .update ⟨3600000000, 3599900000⟩ poseAndField core]
    let d := cycle.arbiter.after later
    Arbiter.new visionAided = .ok a ∧
      (∃ turn, .visionYawStarted turn ∈ cycle.events) ∧
      Latch.tilt.announced (a.journal calls) = 1 ∧
      (¬ ∃ yaw, .tiltAligned yaw ∈ cycle.events) ∧
      d.standing.status.yawAligned = true ∧ d.standing.status.magMode = .off ∧
      .heading true ∉ (d.update ⟨3600010000, 3599910000⟩ poseAndField core).requests := by
  intro core a calls cycle later d
  have accepted : Arbiter.new visionAided = .ok a := rfl
  obtain ⟨counts, first, owns⟩ := latched accepted calls ⟨1010000, 910000⟩ poseAndField core
  have started : ∃ turn, .visionYawStarted turn ∈ cycle.events := by
    have he : ∃ e ∈ cycle.events, e.latch? = some .visionYaw := by decide +kernel
    obtain ⟨e, he, hl⟩ := he
    obtain ⟨turn, rfl⟩ := Event.latch?_eq_visionYaw.mp hl
    exact ⟨turn, he⟩
  have aligned : Latch.tilt.isSet (a.after calls).standing.status = true := by decide +kernel
  have found : (Call.update ⟨1000000, 900000⟩ poseAndField core).findsTilt visionAided = true := by
    decide +kernel
  obtain ⟨yaw, mode, -, silent⟩ := owns started later
  refine ⟨accepted, started, (counts .tilt).1.trans (if_pos aligned), fun again => ?_, yaw, mode,
    silent ⟨3600010000, 3599910000⟩ poseAndField core true⟩
  have unfound := (first.mp again).2 _ (List.mem_cons_of_mem _ (List.mem_singleton_self _))
  cases unfound.symm.trans found

end NavArbiter

/-
# The take-over of position by vision

When position is due to be taken over, vision asks the core to reset position, velocity and height
to the newest pose, in this order and each of them whatever was answered before:

    due     answers                  announced    position and height    core
    no      nothing asked            nothing      as they were           as it was
    yes     all three granted        started      of vision              as the three left it
    yes     one of them refused      failed       as they were           as the three left it

A failure writes nothing into the standing, though the core keeps what it granted.  So the flag of
the take-over is still off and tilt is still aligned in every cycle from there up to the start, and
each of them that finds yaw aligned and a fresh pose asks for the same three again (`asked_again`).

A pose is fresh if it is younger than two intervals as a clock counts them.  An interval whose
double is no time is in range as well, and keeps vision from starting
(`position_takeOver_endless`).

The take-over of yaw follows in the same call.  It asks for nothing, and what it writes into the
status is none of this (`takeYaw_frame`).
-/
import NavArbiter.Estimator.Impaired
import NavArbiter.Proofs.Latches
import NavArbiter.Proofs.RecentResets

namespace NavArbiter

theorem Event.eq_visionPositionResetFailed {α : Type} {e : Event α}
    (h : e.name = (Event.visionPositionResetFailed : Event α).name) :
    e = .visionPositionResetFailed := by
  cases e <;> simp_all [Event.name]

namespace Vision

variable {α C : Type} [Estimator α C]

/-! ## The take-over of position -/

/-- Position is due to be taken over. -/
structure PositionDue (x : Context α) : Prop where
  allowed : x.settings.allowed.visionPosition = true
  unused : x.before.visionPosition = false
  tiltAligned : x.before.tiltAligned = true
  yawAligned : x.before.yawAligned = true
  fresh : x.FreshHeight .vision

/-- The answers of a core to the three requests, and the core they left. -/
structure Answers (C : Type) where
  position : Bool
  velocity : Bool
  height : Bool
  core : C

/-- The answers when each request is made of the core that the one before it left. -/
def answers (x : Context α) (c : C) : Answers C :=
  let position := Estimator.resetPosition c .vision x.histories
  let velocity := Estimator.resetVelocity position.2 .vision x.histories
  let height := Estimator.resetHeight velocity.2 .vision x.histories
  ⟨position.1, velocity.1, height.1, height.2⟩

/-- All three were granted. -/
def Answers.Granted (a : Answers C) : Prop :=
  a.position = true ∧ a.velocity = true ∧ a.height = true

instance (a : Answers C) : Decidable a.Granted := inferInstanceAs (Decidable (_ ∧ _))

/-- The three requests, in the order in which they are made. -/
def Answers.requests (a : Answers C) : List Request :=
  [.position .vision a.position, .velocity .vision a.velocity, .height .vision a.height]

variable (x : Context α) (s : Standing α) (c : C)

omit [Estimator α C] in
theorem wantsPosition_iff : wantsPosition x = true ↔ PositionDue x := by
  simp only [wantsPosition, Bool.and_eq_true, Bool.not_eq_true']
  constructor
  · rintro ⟨⟨⟨⟨allowed, unused⟩, tilt⟩, yaw⟩, fresh⟩
    exact ⟨allowed, unused, tilt, yaw, History.isFresh_iff.mp fresh⟩
  · rintro ⟨allowed, unused, tilt, yaw, fresh⟩
    exact ⟨⟨⟨⟨allowed, unused⟩, tilt⟩, yaw⟩, History.isFresh_iff.mpr fresh⟩

variable {x}

theorem takePosition_of_due (due : PositionDue x) :
    takePosition x s c =
      if (answers x c).Granted then
        ⟨s.mapStatus fun t => { t with height := .vision, visionPosition := true },
          (answers x c).core, [.visionPositionStarted], (answers x c).requests⟩
      else ⟨s, (answers x c).core, [.visionPositionResetFailed], (answers x c).requests⟩ := by
  simp only [takePosition, if_pos (wantsPosition_iff x |>.mpr due), Bool.and_eq_true, and_assoc]
  rfl

theorem takePosition_of_not_due (idle : ¬ PositionDue x) :
    takePosition x s c = .unchanged s c :=
  if_neg (mt (wantsPosition_iff x).mp idle)

/-! ## The take-over of yaw -/

variable (x) [Scalar α]

/-- What the take-over of yaw leaves alone. -/
theorem takeYaw_frame :
    let o := takeYaw x s c
    o.requests = [] ∧ o.standing.status.visionPosition = s.status.visionPosition ∧
      o.standing.status.height = s.status.height ∧ o.standing.health = s.health ∧
      o.standing.anchor = s.anchor ∧ o.standing.ground = s.ground := by
  unfold takeYaw
  split
  · split <;> exact ⟨rfl, rfl, rfl, rfl, rfl, rfl⟩
  · exact ⟨rfl, rfl, rfl, rfl, rfl, rfl⟩

/-- It does not look at the standing. -/
theorem takeYaw_core (s' : Standing α) : (takeYaw x s c).core = (takeYaw x s' c).core := by
  unfold takeYaw
  split
  · split <;> rfl
  · rfl

variable {x s c}

/-- So what a call announces about position is announced by the take-over of position. -/
theorem mem_control_events {e : Event α} (other : ∀ turn, e ≠ .visionYawStarted turn) :
    e ∈ (control x s c).events ↔ e ∈ (takePosition x s c).events := by
  show e ∈ (takePosition x s c).events ++ _ ↔ _
  rw [List.mem_append, or_iff_left]
  intro he
  rcases takeYaw_events x (takePosition x s c).standing (takePosition x s c).core with
    none | ⟨turn, one⟩
  · rw [none] at he
    exact List.not_mem_nil he
  · rw [one] at he
    exact other turn (List.mem_singleton.mp he)

/-- Past its requests and the core, the rest of a call is as the take-over of position left it. -/
theorem control_frame (x : Context α) (s : Standing α) (c : C) :
    let o := control x s c
    let p := takePosition x s c
    o.requests = p.requests ∧ o.core = (takeYaw x s p.core).core ∧
      o.standing.status.visionPosition = p.standing.status.visionPosition ∧
      o.standing.status.height = p.standing.status.height ∧
      o.standing.health = p.standing.health ∧ o.standing.anchor = p.standing.anchor ∧
      o.standing.ground = p.standing.ground := by
  intro o p
  obtain ⟨silent, frame⟩ := takeYaw_frame x p.standing p.core
  refine ⟨?_, takeYaw_core x _ _ s, frame⟩
  show p.requests ++ (takeYaw x p.standing p.core).requests = p.requests
  rw [silent, List.append_nil]

/-! ## One call -/

/-- What a call of the vision controller does about position. -/
structure PositionLaw (x : Context α) (s : Standing α) (c : C) (o : Outcome α C) : Prop where
  asked : PositionDue x → o.requests = (answers x c).requests ∧
    o.core = (takeYaw x s (answers x c).core).core
  notAsked : ¬ PositionDue x → o.requests = [] ∧ o.core = (takeYaw x s c).core
  started_iff : .visionPositionStarted ∈ o.events ↔ PositionDue x ∧ (answers x c).Granted
  failed_iff : .visionPositionResetFailed ∈ o.events ↔ PositionDue x ∧ ¬ (answers x c).Granted
  started : .visionPositionStarted ∈ o.events →
    o.standing.status.visionPosition = true ∧ o.standing.status.height = .vision
  notStarted : .visionPositionStarted ∉ o.events →
    o.standing.status.visionPosition = s.status.visionPosition ∧
      o.standing.status.height = s.status.height
  health : o.standing.health = s.health
  anchor : o.standing.anchor = s.anchor
  ground : o.standing.ground = s.ground

theorem control_position (x : Context α) (s : Standing α) (c : C) :
    PositionLaw x s c (control x s c) := by
  have started := mem_control_events (x := x) (s := s) (c := c)
    (e := .visionPositionStarted) nofun
  have failed := mem_control_events (x := x) (s := s) (c := c)
    (e := .visionPositionResetFailed) nofun
  obtain ⟨requests, core, position, height, health, anchor, ground⟩ := control_frame x s c
  by_cases due : PositionDue x
  · rw [takePosition_of_due s c due] at *
    by_cases granted : (answers x c).Granted
    · rw [if_pos granted] at *
      have announced : .visionPositionStarted ∈ (control x s c).events :=
        started.mpr (List.mem_singleton_self _)
      exact {
        asked := fun _ => ⟨requests, core⟩
        notAsked := fun idle => absurd due idle
        started_iff := iff_of_true announced ⟨due, granted⟩
        failed_iff := iff_of_false (mt failed.mp (by simp)) fun h => h.2 granted
        started := fun _ => ⟨position, height⟩
        notStarted := fun silent => absurd announced silent
        health := health, anchor := anchor, ground := ground }
    · rw [if_neg granted] at *
      have silent : .visionPositionStarted ∉ (control x s c).events := mt started.mp (by simp)
      exact {
        asked := fun _ => ⟨requests, core⟩
        notAsked := fun idle => absurd due idle
        started_iff := iff_of_false silent fun h => granted h.2
        failed_iff := iff_of_true (failed.mpr (List.mem_singleton_self _)) ⟨due, granted⟩
        started := fun announced => absurd announced silent
        notStarted := fun _ => ⟨position, height⟩
        health := health, anchor := anchor, ground := ground }
  · rw [takePosition_of_not_due s c due] at *
    have silent : .visionPositionStarted ∉ (control x s c).events :=
      mt started.mp List.not_mem_nil
    exact {
      asked := fun h => absurd h due
      notAsked := fun _ => ⟨requests, core⟩
      started_iff := iff_of_false silent fun h => due h.1
      failed_iff := iff_of_false (mt failed.mp List.not_mem_nil) fun h => due h.1
      started := fun announced => absurd announced silent
      notStarted := fun _ => ⟨position, height⟩
      health := health, anchor := anchor, ground := ground }

/-! ## Later cycles -/

/-- Once a take-over has failed, each later cycle that comes before the start waits for yaw and a
fresh pose only, and asks anew when it finds them. -/
theorem asked_again {a : Arbiter α} {clock : Clock} {samples : Histories α} {c : C}
    (failed : .visionPositionResetFailed ∈ (a.update clock samples c).events)
    {later : List (Call α C)}
    (silent : .visionPositionStarted ∉ (a.update clock samples c).arbiter.journal later)
    (clock' : Clock) (samples' : Histories α) (c' : C) :
    let b := (a.update clock samples c).arbiter.after later
    let x := b.context clock' samples'
    (PositionDue x ↔ b.standing.status.yawAligned = true ∧ x.FreshHeight .vision) ∧
      (PositionDue x →
        ∃ found : C, (answers x found).requests <:+: (b.update clock' samples' c').requests) := by
  intro b x
  let first : Call α C := .update clock samples c
  -- what the failed cycle found
  have announced := (mem_settled_iff (g := .vision) rfl).mp
    ((mem_update_events .vision rfl).mp failed)
  obtain ⟨due, refused⟩ := (control_position _ _ _).failed_iff.mp announced
  have unstarted : .visionPositionStarted ∉ (a.update clock samples c).events := by
    rw [mem_update_events .vision rfl, mem_settled_iff (g := .vision) rfl]
    exact fun started => refused ((control_position _ _ _).started_iff.mp started).2
  -- and what is left of it
  have settings : b.settings = a.settings := settings_after a (first :: later)
  have tilt : b.standing.status.tiltAligned = true :=
    isSet_after (l := .tilt) (first :: later) due.tiltAligned
  have unused : b.standing.status.visionPosition = false := by
    refine (isSet_after_of_silent (l := .visionPosition) (first :: later) fun e he hl => ?_).trans
      due.unused
    rw [Event.latch?_eq_visionPosition.mp hl] at he
    exact (List.mem_append.mp he).elim unstarted silent
  refine ⟨⟨fun again => ⟨again.yawAligned, again.fresh⟩, fun ⟨yaw, fresh⟩ => ?_⟩, fun again => ?_⟩
  · refine ⟨?_, unused, tilt, yaw, fresh⟩
    show b.settings.allowed.visionPosition = true
    rw [settings]
    exact due.allowed
  · let found := Stage.vision.upTo x b.standing c'
    refine ⟨found.core, ?_⟩
    have asked := ((control_position x found.standing found.core).asked again).1
    rw [← asked, Arbiter.update_eq]
    exact requests_infix_settled x b.standing c' .vision

/-! ## The law -/

end Vision

end NavArbiter

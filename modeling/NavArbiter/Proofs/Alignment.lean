/-
# Alignment before activation

Satellite navigation and flow start on tilt that was aligned before the cycle and on yaw that was
aligned before it or in it, by vision or by a granted heading; satellite and range heights are
selected on yaw that was aligned before.

Four stages write yaw alignment and three select heights.  `AlignedSoFar` follows both through the
decisions of a cycle: each alignment of yaw has its grounds (`Grounded`) among the events and
requests so far, and a start of a source only hands these grounds on.

A start that finds yaw not aligned makes one attempt at it, and `YawAttempt` says what may come of
that.
-/
import NavArbiter.Proofs.Decision

namespace NavArbiter

/-! ## The choice of a height source -/

/-- A source is fresh enough to reset height to. -/
def Height.Facts.fresh (f : Height.Facts) : HeightSource → Bool
  | .baro => f.baroFresh
  | .gps => f.gpsFresh
  | .range => f.rangeFresh
  | .vision => f.visionFresh

/-- A source is chosen only if it is fresh, whichever one was active. -/
theorem fresh_of_choose {f : Height.Facts} {target : HeightSource}
    (h : Height.choose f = some target) : f.fresh target = true := by
  unfold Height.choose at h
  unfold Height.Facts.fresh
  split at h <;> grind

section Decision

variable {α C : Type} [Scalar α] [Estimator α C] {x : Context α} {s : Standing α} {c : C}
  {o : Outcome α C}

/-- Both of these heights need yaw aligned to count as fresh. -/
theorem yawAligned_of_choose {target : HeightSource}
    (h : Height.choose (Height.facts x s c) = some target) (ht : target = .gps ∨ target = .range) :
    x.before.yawAligned = true := by
  rcases ht with rfl | rfl
  · exact (Bool.and_eq_true_iff.mp (fresh_of_choose h)).2
  · exact (Bool.and_eq_true_iff.mp (fresh_of_choose h)).1

omit [Scalar α] in
theorem yawAligned_of_sound {source : HeightSource} (h : Height.sound x s source = true)
    (hs : source = .gps ∨ source = .range) : x.before.yawAligned = true := by
  rcases hs with rfl | rfl <;> exact (Bool.and_eq_true_iff.mp h).1

/-! ## What a decision can align, start and select -/

/-- An alignment of yaw has its grounds in the decision that makes it. -/
theorem yaw_decision (h : Decision x s c o) (hy : o.standing.status.yawAligned = true) :
    s.status.yawAligned = true ∨ (∃ turn, .visionYawStarted turn ∈ o.events) ∨
      .heading true ∈ o.requests := by
  cases h with
  | startVisionYaw _ turn _ => exact Or.inr (Or.inl ⟨turn, List.mem_singleton_self _⟩)
  | alignTilt _ _ _ _ hr | alignYaw _ _ _ _ hr =>
      subst hy
      exact Or.inr (Or.inr hr.mem)
  | enterThreeAxis _ granted _ _ _ hr =>
      have hg : granted = true := (decideStatus_yawAligned _ _ _).symm.trans hy
      subst hg
      exact Or.inr (Or.inr hr.mem)
  | settleMag => exact Or.inl ((decideStatus_yawAligned _ _ _).symm.trans hy)
  | _ => exact Or.inl hy

/-- Satellite navigation starts with yaw aligned, on tilt aligned before. -/
theorem gps_decision (h : Decision x s c o) (hg : o.standing.status.gps = true) :
    s.status.gps = true ∨ x.before.tiltAligned = true ∧ s.status.yawAligned = true := by
  cases h with
  | startGpsBesideFlow _ hd _ | startGps _ hd _ => exact Or.inr ⟨hd.tiltAligned, hd.yawAligned⟩
  | loseGps | disableGps => cases hg
  | settleMag | enterThreeAxis =>
      simp only [decideStatus_gps] at hg
      exact Or.inl hg
  | _ => exact Or.inl hg

/-- So does flow. -/
theorem flow_decision (h : Decision x s c o) (hf : o.standing.status.flow = true) :
    s.status.flow = true ∨ x.before.tiltAligned = true ∧ s.status.yawAligned = true := by
  cases h with
  | startFlow _ _ hw hy =>
      simp only [Flow.wantsStart, Bool.and_eq_true] at hw
      exact Or.inr ⟨hw.1.1.2, hy⟩
  | loseFlow | disableFlow => cases hf
  | settleMag | enterThreeAxis =>
      simp only [decideStatus_flow] at hf
      exact Or.inl hf
  | _ => exact Or.inl hf

/-- A satellite or range height is selected on yaw aligned before. -/
theorem height_decision (h : Decision x s c o)
    (hh : o.standing.status.height = .gps ∨ o.standing.status.height = .range) :
    o.standing.status.height = s.status.height ∨ x.before.yawAligned = true := by
  cases h with
  | startVisionPosition => rcases hh with hh | hh <;> cases hh
  | resetHeight _ _ _ hc => exact Or.inr (yawAligned_of_choose hc hh)
  | selectPreferred _ _ hs _ => exact Or.inr (yawAligned_of_sound hs hh)
  | settleMag | enterThreeAxis => exact Or.inl (decideStatus_height _ _ _)
  | _ => exact Or.inl rfl

/-! ## Cycles -/

/-- The grounds on which yaw may be taken as aligned in a cycle with these events and requests. -/
def Grounded (before : Status) (es : List (Event α)) (rs : List Request) : Prop :=
  before.yawAligned = true ∨ (∃ turn, .visionYawStarted turn ∈ es) ∨ .heading true ∈ rs

omit [Scalar α] in
theorem Grounded.append {before : Status} {es : List (Event α)} {rs : List Request}
    (h : Grounded before es rs) (es' : List (Event α)) (rs' : List Request) :
    Grounded before (es ++ es') (rs ++ rs') := by
  rcases h with hb | ⟨turn, he⟩ | hr
  · exact Or.inl hb
  · exact Or.inr (Or.inl ⟨turn, List.mem_append_left _ he⟩)
  · exact Or.inr (Or.inr (List.mem_append_left _ hr))

/-- What the decisions of a cycle have aligned, started and selected so far, with its grounds. -/
structure AlignedSoFar (x : Context α) (o : Outcome α C) : Prop where
  yaw : o.standing.status.yawAligned = true → Grounded x.before o.events o.requests
  gps : o.standing.status.gps = true → x.before.gps = true ∨
    x.before.tiltAligned = true ∧ Grounded x.before o.events o.requests
  flow : o.standing.status.flow = true → x.before.flow = true ∨
    x.before.tiltAligned = true ∧ Grounded x.before o.events o.requests
  height : o.standing.status.height = .gps ∨ o.standing.status.height = .range →
    o.standing.status.height = x.before.height ∨ x.before.yawAligned = true

theorem AlignedSoFar.more {o p : Outcome α C} (h : AlignedSoFar x o)
    (hd : Decision x o.standing o.core p) : AlignedSoFar x (o.andThen fun _ _ => p) where
  yaw hy := by
    rcases yaw_decision (o := p) hd hy with hs | ⟨turn, he⟩ | hr
    · exact (h.yaw hs).append _ _
    · exact Or.inr (Or.inl ⟨turn, List.mem_append_right _ he⟩)
    · exact Or.inr (Or.inr (List.mem_append_right _ hr))
  gps hg := by
    rcases gps_decision (o := p) hd hg with hs | ⟨ht, hy⟩
    · exact (h.gps hs).imp_right fun hg => ⟨hg.1, hg.2.append _ _⟩
    · exact Or.inr ⟨ht, (h.yaw hy).append _ _⟩
  flow hf := by
    rcases flow_decision (o := p) hd hf with hs | ⟨ht, hy⟩
    · exact (h.flow hs).imp_right fun hf => ⟨hf.1, hf.2.append _ _⟩
    · exact Or.inr ⟨ht, (h.yaw hy).append _ _⟩
  height hh := by
    rcases height_decision (o := p) hd hh with hs | hb
    · have hs : p.standing.status.height = o.standing.status.height := hs
      rcases h.height (hs ▸ hh) with he | hb
      · exact Or.inl (hs.trans he)
      · exact Or.inr hb
    · exact Or.inr hb

theorem alignedSoFar_settled {s : Standing α} (c : C) (hx : s.status = x.before) :
    AlignedSoFar x (Arbiter.settled x s c) := by
  have start : AlignedSoFar x (.unchanged s c) :=
    ⟨fun h => Or.inl (hx ▸ h), fun h => Or.inl (hx ▸ h), fun h => Or.inl (hx ▸ h),
      fun _ => Or.inl (congrArg Status.height hx)⟩
  exact (Arbiter.settled_decisions x s c).keep start fun _ _ h hd => h.more hd

/-- In every cycle, from any standing: a source that is started had tilt aligned before the cycle
and yaw aligned on grounds the cycle shows, and a satellite or range height that is newly selected
had yaw aligned before the cycle. -/
theorem aligned_before_activation (a : Arbiter α) (clock : Clock) (histories : Histories α)
    (c : C) :
    let before := a.standing.status
    let cycle := a.update clock histories c
    let after := cycle.arbiter.standing.status
    ((before.gps = false ∧ after.gps = true) ∨ (before.flow = false ∧ after.flow = true) →
      before.tiltAligned = true ∧
        (before.yawAligned = true ∨ (∃ turn, .visionYawStarted turn ∈ cycle.events) ∨
          .heading true ∈ cycle.requests)) ∧
    (after.height ≠ before.height → after.height = .gps ∨ after.height = .range →
      before.yawAligned = true) := by
  have h := alignedSoFar_settled (x := a.context clock histories) (s := a.standing) c rfl
  intro before cycle after
  have grounds : ∀ {es : List (Event α)} {rs : List Request}, Grounded before es rs →
      ∀ es', Grounded before (es ++ es') rs := fun hg es' => by
    simpa using hg.append es' []
  simp only [after, cycle, Arbiter.update_eq]
  refine ⟨?_, fun hne hh => ?_⟩
  · rintro (⟨hb, ha⟩ | ⟨hb, ha⟩)
    · have hoff : ¬before.gps = true := fun h' => absurd (hb.symm.trans h') Bool.false_ne_true
      obtain ⟨ht, hg⟩ := (h.gps ha).resolve_left hoff
      exact ⟨ht, grounds hg _⟩
    · have hoff : ¬before.flow = true := fun h' => absurd (hb.symm.trans h') Bool.false_ne_true
      obtain ⟨ht, hg⟩ := (h.flow ha).resolve_left hoff
      exact ⟨ht, grounds hg _⟩
  · exact (h.height hh).resolve_left hne

end Decision

/-! ## Attempts at yaw -/

section Attempt

variable {α C : Type} [Estimator α C]

/-- What a start finds when it wants yaw: yaw is aligned already, there is no field to align it
with, or the core is asked once. -/
inductive YawAttempt (x : Context α) (s : Standing α) (c : C) : Alignment α C → Prop
  | aligned : s.status.yawAligned = true → YawAttempt x s c ⟨s, c, []⟩
  | unseen : s.status.yawAligned = false → x.histories.mag.newest? = none →
      YawAttempt x s c ⟨s, c, []⟩
  | asked {m : MagSample α} {granted : Bool} {c' : C} : s.status.yawAligned = false →
      x.histories.mag.newest? = some m → Estimator.resetHeading c m.field = (granted, c') →
      YawAttempt x s c ⟨s.setYawAligned granted, c', [.heading granted]⟩

/-- Yaw is aligned, or the core consents to align it with the newest field. -/
def Context.YawReady (x : Context α) (s : Standing α) (c : C) : Prop :=
  s.status.yawAligned = true ∨
    ∃ m, x.histories.mag.newest? = some m ∧ (Estimator.resetHeading c m.field).1 = true

variable {x : Context α} {s : Standing α} {c : C} {a : Alignment α C}

omit [Estimator α C] in
theorem Standing.setYawAligned_of_unaligned (unaligned : s.status.yawAligned = false) :
    s.setYawAligned false = s := by
  rw [← unaligned]
  rfl

theorem ofMag_attempt (x : Context α) (s : Standing α) (c : C) :
    YawAttempt x s c (Alignment.ofMag x s c) := by
  unfold Alignment.ofMag
  split
  · next aligned => exact .aligned aligned
  · next unaligned =>
    have unaligned := Bool.eq_false_iff.mpr unaligned
    unfold Estimator.askHeadingFromMag
    cases seen : x.histories.mag.newest? with
    | none =>
        dsimp only
        rw [Standing.setYawAligned_of_unaligned unaligned]
        exact .unseen unaligned seen
    | some m => exact .asked unaligned seen rfl

theorem YawAttempt.eq_ofMag (h : YawAttempt x s c a) : a = Alignment.ofMag x s c := by
  unfold Alignment.ofMag Estimator.askHeadingFromMag Estimator.askHeading
  cases h with
  | aligned aligned => rw [if_pos aligned]
  | unseen unaligned unseen =>
      simp only [unaligned, unseen, Bool.false_eq_true, if_false,
        Standing.setYawAligned_of_unaligned]
  | asked unaligned seen answer =>
      simp only [unaligned, seen, answer, Bool.false_eq_true, if_false]

theorem YawAttempt.ready_iff (h : YawAttempt x s c a) :
    a.standing.status.yawAligned = true ↔ x.YawReady s c := by
  unfold Context.YawReady
  cases h with
  | aligned aligned => simp [aligned]
  | unseen unaligned unseen => simp [unaligned, unseen]
  | asked unaligned seen answer =>
      simp only [unaligned, seen, Option.some.injEq, exists_eq_left', answer, Bool.false_eq_true,
        false_or]
      exact Iff.rfl

/-- A refusal leaves the standing alone. -/
theorem YawAttempt.standing_of_refused (h : YawAttempt x s c a)
    (refused : a.standing.status.yawAligned = false) : a.standing = s := by
  cases h with
  | aligned | unseen => rfl
  | asked unaligned seen answer =>
      cases refused
      exact Standing.setYawAligned_of_unaligned unaligned

end Attempt

end NavArbiter

/-
# What a cycle does to its core

Controllers reach the core through few doors.  They ask it for resets, which a core carries out as
it likes, and past that they write into it themselves:

    yaw is taken over from vision            attitude, with a jump logged
    flow or satellite navigation is lost     velocity set to zero
    flow starts without satellites           velocity and its variances, and on the ground the
                                             position with its variances and the outputs

`CoreAct x es` is one such act in a cycle that reads `x` and announces `es`.  Each direct write of a
velocity carries the event that is announced along with it, so a cycle that does not announce it
does not write it.  `settled_acts` says that a cycle up to the application of its jumps is nothing
but a chain of acts; what each of them keeps of a core is kept by the cycle.
-/
import Mathlib.Logic.Relation
import NavArbiter.Proofs.Decision

namespace NavArbiter

/-- What each act keeps is kept by acts one after another. -/
theorem kept_of_acts {C : Type} {Act : C → C → Prop} {P : C → Prop} {c c' : C}
    (acts : Relation.ReflTransGen Act c c') (act : ∀ {a a'}, P a → Act a a' → P a') (h : P c) :
    P c' := by
  induction acts with
  | refl => exact h
  | tail _ last ih => exact act ih last

variable {α C : Type} [Scalar α] [Estimator α C]

/-- One act of a cycle on a core. -/
inductive CoreAct (x : Context α) (es : List (Event α)) (c : C) : C → Prop
  | refreshDeclination : CoreAct x es c (Estimator.refreshDeclination c)
  | resetPosition (source : HorizontalSource) :
      CoreAct x es c (Estimator.resetPosition c source x.histories).2
  | resetVelocity (source : HorizontalSource) :
      CoreAct x es c (Estimator.resetVelocity c source x.histories).2
  | resetHeight (source : HeightSource) :
      CoreAct x es c (Estimator.resetHeight c source x.histories).2
  | resetHeading (field : Vec3 α) : CoreAct x es c (Estimator.resetHeading c field).2
  | turnTo {v : VisionSample α} : v ∈ x.histories.vision.samples →
      CoreAct x es c (Vision.turnTo c v.attitude.angles.yaw)
  | stop {anchor : Vec2 α} : (.flowLost anchor ∈ es ∨ .gpsLost anchor ∈ es) →
      CoreAct x es c (Estimator.stop c)
  | seedVelocity (w : FlowSample α) : .flowStarted ∈ es → x.before.gps = false →
      x.before.inAir = true → CoreAct x es c (Flow.seedVelocity x c w)
  | seedOrigin (w : FlowSample α) : .flowStarted ∈ es → x.before.gps = false →
      x.before.inAir = false → CoreAct x es c (Flow.seedOrigin (Flow.seedVelocity x c w))

/-- Acts one after another. -/
abbrev CoreActs (x : Context α) (es : List (Event α)) : C → C → Prop :=
  Relation.ReflTransGen (CoreAct x es)

/-- An outcome left a core that acts lead to, and announced what they require. -/
def Outcome.ActsOn (x : Context α) (c : C) (o : Outcome α C) : Prop := CoreActs x o.events c o.core

theorem CoreAct.mono {x : Context α} {es fs : List (Event α)} {c c' : C} (h : CoreAct x es c c')
    (hsub : es ⊆ fs) : CoreAct x fs c c' := by
  cases h with
  | refreshDeclination => exact .refreshDeclination
  | resetPosition source => exact .resetPosition source
  | resetVelocity source => exact .resetVelocity source
  | resetHeight source => exact .resetHeight source
  | resetHeading field => exact .resetHeading field
  | turnTo hv => exact .turnTo hv
  | stop he => exact .stop (he.imp (@hsub _) (@hsub _))
  | seedVelocity w he hg ha => exact .seedVelocity w (hsub he) hg ha
  | seedOrigin w he hg ha => exact .seedOrigin w (hsub he) hg ha

theorem Outcome.ActsOn.andThen {x : Context α} {c : C} {o : Outcome α C}
    {f : Standing α → C → Outcome α C} (h : o.ActsOn x c)
    (hf : (f o.standing o.core).ActsOn x o.core) : (o.andThen f).ActsOn x c := by
  have first : CoreActs x (o.andThen f).events c o.core :=
    Relation.ReflTransGen.mono (fun _ _ ha => ha.mono (List.subset_append_left _ _)) _ _ h
  have rest : CoreActs x (o.andThen f).events o.core (o.andThen f).core :=
    Relation.ReflTransGen.mono (fun _ _ ha => ha.mono (List.subset_append_right _ _)) _ _ hf
  exact first.trans rest

/-! ## Requests -/

section Requests

variable (x : Context α) (es : List (Event α)) (s : Standing α) (c : C)

theorem askHeadingFromMag_acts :
    CoreActs x es c (Estimator.askHeadingFromMag c x.histories).core := by
  unfold Estimator.askHeadingFromMag
  split
  · next m _ => exact .single (.resetHeading m.field)
  · exact .refl

theorem ofMag_acts : CoreActs x es c (Alignment.ofMag x s c).core := by
  unfold Alignment.ofMag
  split
  · exact .refl
  · exact askHeadingFromMag_acts x es c

theorem resetBoth_acts : CoreActs x es c (Gps.resetBoth x c).core := by
  have position : CoreAct x es c (Estimator.askPosition c .gps x.histories).core :=
    .resetPosition .gps
  unfold Gps.resetBoth
  dsimp only
  split
  · exact (Relation.ReflTransGen.single position).tail (.resetVelocity .gps)
  · exact .single position

end Requests

/-! ## The stages -/

section Stages

variable (x : Context α) (s : Standing α) (c : C)

theorem watchTilt_acts : (Arbiter.watchTilt x s c).ActsOn x c := by
  unfold Arbiter.watchTilt
  split
  · exact askHeadingFromMag_acts x _ c
  · exact .refl

theorem takePosition_acts : (Vision.takePosition x s c).ActsOn x c := by
  let p := Estimator.askPosition c .vision x.histories
  let v := Estimator.askVelocity p.core .vision x.histories
  let h := Estimator.askHeight v.core .vision x.histories
  have three : ∀ es, CoreActs x es c h.core := by
    intro es
    have position : CoreAct x es c p.core := .resetPosition .vision
    have velocity : CoreAct x es p.core v.core := .resetVelocity .vision
    have height : CoreAct x es v.core h.core := .resetHeight .vision
    exact ((Relation.ReflTransGen.single position).tail velocity).tail height
  unfold Vision.takePosition
  split
  · dsimp only
    split <;> exact three _
  · exact .refl

theorem takeYaw_acts : (Vision.takeYaw x s c).ActsOn x c := by
  unfold Vision.takeYaw
  split
  · split
    · exact .refl
    · next v newest => exact .single (.turnTo (List.mem_of_getLast? newest))
  · exact .refl

theorem vision_acts : (Vision.control x s c).ActsOn x c :=
  (takePosition_acts x s c).andThen (takeYaw_acts x _ _)

theorem seed_acts {es : List (Event α)} (he : .flowStarted ∈ es) :
    CoreActs x es c (Flow.seed x c).1 := by
  unfold Flow.seed
  split
  · exact .refl
  · next hg =>
    have hg : x.before.gps = false := Bool.eq_false_iff.mpr hg
    split
    · exact .refl
    · next w _ =>
      dsimp only
      split
      · next ha => exact .single (.seedVelocity w he hg ha)
      · next ha => exact .single (.seedOrigin w he hg (Bool.eq_false_iff.mpr ha))

theorem flowStart_acts : (Flow.start x s c).ActsOn x c := by
  unfold Flow.start
  dsimp only
  split
  · have aligned := ofMag_acts x [.flowStarted] s c
    exact aligned.trans (seed_acts x _ (List.mem_singleton_self _))
  · exact ofMag_acts x _ s c

theorem flow_acts : (Flow.control x s c).ActsOn x c := by
  unfold Flow.control
  split
  · split
    · exact flowStart_acts x s c
    · split
      · exact .single (.stop (Or.inl (List.mem_singleton_self _)))
      · exact .refl
  · split <;> exact .refl

theorem activate_acts : (Gps.activate x s c).ActsOn x c := by
  unfold Gps.activate
  dsimp only
  split
  · exact .refl
  · split <;> exact resetBoth_acts x _ c

theorem gpsStart_acts : (Gps.start x s c).ActsOn x c := by
  let a := Alignment.ofMag x s c
  have aligned : Outcome.ActsOn x c (⟨a.standing, a.core, [], a.requests⟩ : Outcome α C) :=
    ofMag_acts x [] s c
  unfold Gps.start
  dsimp only
  split
  · exact aligned.andThen (activate_acts x a.standing a.core)
  · exact aligned

theorem recover_acts : (Gps.recover x s c).ActsOn x c := by
  let v := Estimator.askVelocity c .gps x.histories
  let p := Estimator.askPosition v.core .gps x.histories
  have both : ∀ es, CoreActs x es c p.core := by
    intro es
    have velocity : CoreAct x es c v.core := .resetVelocity .gps
    have position : CoreAct x es v.core p.core := .resetPosition .gps
    exact (Relation.ReflTransGen.single velocity).tail position
  unfold Gps.recover
  dsimp only
  split <;> exact both _

theorem gps_acts : (Gps.control x s c).ActsOn x c := by
  unfold Gps.control
  split
  · split
    · split
      · split
        · exact recover_acts x s c
        · exact .single (.stop (Or.inr (List.mem_singleton_self _)))
      · exact .refl
    · split
      · exact gpsStart_acts x s c
      · exact .refl
  · split <;> exact .refl

theorem watchTimeout_acts : (Height.watchTimeout x s c).ActsOn x c := by
  have reset : ∀ es target, CoreActs x es c (Estimator.askHeight c target x.histories).core :=
    fun _ target => .single (.resetHeight target)
  unfold Height.watchTimeout Height.resetTo
  dsimp only
  split
  · split
    · exact .refl
    · split <;> exact reset _ _
  · exact .refl

theorem height_acts : (Height.control x s c).ActsOn x c := by
  have inertial : (Height.watchInertial x s c).ActsOn x c := by
    unfold Height.watchInertial
    split <;> exact .refl
  have preferred : ∀ s' (c' : C), (Height.selectPreferred x s' c').ActsOn x c' := by
    intro s' c'
    unfold Height.selectPreferred
    dsimp only
    split <;> exact .refl
  have ground : ∀ s' (c' : C), (Height.noteGround x s' c').ActsOn x c' := by
    intro s' c'
    unfold Height.noteGround
    split <;> exact .refl
  exact ((inertial.andThen (watchTimeout_acts x _ _)).andThen (preferred _ _)).andThen
    (ground _ _)

theorem settle_acts : (Mag.settle x s c).ActsOn x c := by
  unfold Mag.settle Mag.enter
  dsimp only
  split
  · exact .refl
  · split
    · exact askHeadingFromMag_acts x _ c
    · exact .refl

end Stages

theorem Arbiter.settled_acts (x : Context α) (s : Standing α) (c : C) :
    (Arbiter.settled x s c).ActsOn x c := by
  have h₀ : (refreshDeclination s c).ActsOn x c := .single .refreshDeclination
  have h₁ := h₀.andThen (watchTilt_acts x _ _)
  have h₂ := h₁.andThen (vision_acts x _ _)
  have h₃ := h₂.andThen (flow_acts x _ _)
  have h₄ := h₃.andThen (gps_acts x _ _)
  have h₅ := h₄.andThen (height_acts x _ _)
  exact h₅.andThen (settle_acts x _ _)

end NavArbiter

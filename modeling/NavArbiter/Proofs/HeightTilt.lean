/-
# Height on aligned tilt

Nothing in the height controller looks at tilt.  What keeps it from leaving the barometer before
tilt is aligned is what it waits for instead: satellite and range heights wait for yaw, vision
brings height along with position, and nearly all that aligns yaw or takes vision over waits for
tilt.  Two settings lead past it, and nothing else does:

    setting                          what is selected without tilt
    vision preferred for height      vision height, once a sample lies at the horizon
    three axes throughout            satellite height, and range height where it is preferred, since
                                     yaw is aligned on entering three-axis fusion
-/
import NavArbiter.Proofs.Alignment
import NavArbiter.Proofs.Flight
import NavArbiter.Proofs.StatusLaws

namespace NavArbiter

/-- What a status without aligned tilt owes to the settings. -/
structure Upright {α : Type} (settings : Settings α) (t : Status) : Prop where
  yaw : t.yawAligned = true → t.tiltAligned = true ∨ settings.magPolicy = .threeAxis
  gps : t.height = .gps → t.tiltAligned = true ∨ settings.magPolicy = .threeAxis
  range : t.height = .range → t.tiltAligned = true ∨
    settings.magPolicy = .threeAxis ∧ settings.preferredHeight = .range
  vision : t.height = .vision → t.tiltAligned = true ∨ settings.preferredHeight = .vision

namespace Upright

variable {α : Type} {settings : Settings α} {t : Status}

theorem initial (settings : Settings α) : Upright settings .initial where
  yaw := nofun
  gps := nofun
  range := nofun
  vision := nofun

theorem of_tilt (h : t.tiltAligned = true) : Upright settings t :=
  ⟨fun _ => Or.inl h, fun _ => Or.inl h, fun _ => Or.inl h, fun _ => Or.inl h⟩

/-- A status is upright by its two alignments and its height source. -/
theorem congr {t' : Status} (h : Upright settings t) (ht : t'.tiltAligned = t.tiltAligned)
    (hy : t'.yawAligned = t.yawAligned) (hh : t'.height = t.height) : Upright settings t' := by
  constructor
  · rw [ht, hy]; exact h.yaw
  · rw [ht, hh]; exact h.gps
  · rw [ht, hh]; exact h.range
  · rw [ht, hh]; exact h.vision

/-- Which heights may be selected next: the one in use, and those that yaw or a preference open. -/
theorem withHeight (h : Upright settings t) {height : HeightSource}
    (hg : height = .gps → t.tiltAligned = true ∨ settings.magPolicy = .threeAxis)
    (hr : height = .range → t.tiltAligned = true ∨
      settings.magPolicy = .threeAxis ∧ settings.preferredHeight = .range)
    (hv : height = .vision → t.tiltAligned = true ∨ settings.preferredHeight = .vision) :
    Upright settings { t with height := height } :=
  ⟨h.yaw, hg, hr, hv⟩

end Upright

/-- Range and vision heights are chosen only to stay with them. -/
theorem active_of_choose {f : Height.Facts} {target : HeightSource}
    (h : Height.choose f = some target) (ht : target = .range ∨ target = .vision) :
    f.active = target := by
  unfold Height.choose at h
  split at h <;> grind

section Decision

variable {α C : Type} [Scalar α] [Estimator α C] {x : Context α} {s : Standing α} {c : C}
  {o : Outcome α C}

/-- The automatic policy enters three axes on aligned tilt. -/
theorem tilt_of_target (h : Mag.target x s c = .threeAxis) :
    x.before.tiltAligned = true ∨ x.settings.magPolicy = .threeAxis := by
  unfold Mag.target at h
  split at h
  · split at h
    · next h3 => exact Or.inl (Bool.and_eq_true_iff.mp h3).2
    · cases h
  · cases h
  · next hp => exact Or.inr hp
  · cases h

/-- A decision keeps a status upright, as long as tilt is still aligned if it was before the
cycle. -/
theorem upright_decision (ht : x.before.tiltAligned = true → s.status.tiltAligned = true)
    (hb : Upright x.settings x.before) (hs : Upright x.settings s.status)
    (h : Decision x s c o) : Upright x.settings o.standing.status := by
  -- tilt before the cycle is tilt now
  have now {p : Prop} (hp : x.before.tiltAligned = true ∨ p) :
      s.status.tiltAligned = true ∨ p := hp.imp_left ht
  cases h with
  | alignTilt => exact .of_tilt rfl
  | startVisionPosition _ hw =>
      simp only [Vision.wantsPosition, Bool.and_eq_true] at hw
      exact .of_tilt (ht hw.1.1.2)
  | startVisionYaw _ _ hw =>
      simp only [Vision.wantsYaw, Bool.and_eq_true] at hw
      exact .of_tilt (ht hw.1.2)
  | alignYaw _ _ hb _ _ => exact .of_tilt (ht hb)
  | resetHeight _ target _ hc =>
      refine hs.withHeight ?_ ?_ ?_
      · rintro rfl
        exact now (hb.yaw (yawAligned_of_choose hc (Or.inl rfl)))
      · rintro rfl
        exact now (hb.range (active_of_choose hc (Or.inl rfl)))
      · rintro rfl
        exact now (hb.vision (active_of_choose hc (Or.inr rfl)))
  | selectPreferred _ _ hsound _ =>
      refine hs.withHeight (fun hp => ?_) (fun hp => ?_) (fun hp => Or.inr hp)
      · exact now (hb.yaw (yawAligned_of_sound hsound (Or.inl hp)))
      · exact (now (hb.yaw (yawAligned_of_sound hsound (Or.inr hp)))).imp_right (⟨·, hp⟩)
  | settleMag => exact hs.congr (by simp) (by simp) (by simp)
  | enterThreeAxis _ granted _ h3 _ _ =>
      have entered : Upright x.settings (s.setYawAligned granted).status :=
        ⟨fun _ => now (tilt_of_target h3), hs.gps, hs.range, hs.vision⟩
      exact entered.congr (by simp) (by simp) (by simp)
  | _ => exact hs.congr rfl rfl rfl

/-- What the decisions of a cycle have kept so far. -/
structure UprightSoFar (x : Context α) (o : Outcome α C) : Prop where
  upright : Upright x.settings o.standing.status
  tilt : x.before.tiltAligned = true → o.standing.status.tiltAligned = true

theorem UprightSoFar.more {o p : Outcome α C} (hb : Upright x.settings x.before)
    (h : UprightSoFar x o) (hd : Decision x o.standing o.core p) :
    UprightSoFar x (o.andThen fun _ _ => p) where
  upright := upright_decision (o := p) h.tilt hb h.upright hd
  tilt htilt := by
    rcases tilt_decision hd with ht | ⟨ht, -⟩
    · exact ht.trans (h.tilt htilt)
    · exact ht

theorem uprightSoFar_settled (c : C) (hx : s.status = x.before)
    (hb : Upright x.settings x.before) : UprightSoFar x (Arbiter.settled x s c) := by
  have start : UprightSoFar x (.unchanged s c) := ⟨hx ▸ hb, fun h => hx ▸ h⟩
  exact (Arbiter.settled_decisions x s c).keep start fun _ _ h hd => h.more hb hd

/-! ## Runs -/

/-- An arbiter whose status is upright under its own settings. -/
def Arbiter.IsUpright (a : Arbiter α) : Prop := Upright a.settings a.standing.status

theorem Arbiter.IsUpright.call {a : Arbiter α} (h : a.IsUpright) (k : Call α C) :
    (a.call k).IsUpright := by
  cases k with
  | update clock hs c =>
      rw [Arbiter.call, Arbiter.update_eq]
      exact (uprightSoFar_settled (x := a.context clock hs) c rfl h).upright
  | setInAir inAir => exact Upright.congr h rfl rfl rfl
  | writeHealth _ => exact h

/-- Throughout every run of a new arbiter, a height source other than the barometer stands on
aligned tilt, except where the settings lead past it: vision height where vision is preferred for
height, and, where the magnetometer is to be fused on three axes throughout, satellite height and
a preferred range height. -/
theorem tilt_of_height {settings : Settings α} {a : Arbiter α}
    (h : Arbiter.new settings = .ok a) (calls : List (Call α C)) :
    let t := (a.after calls).standing.status
    t.height ≠ .baro → t.tiltAligned = true ∨
      t.height = .vision ∧ settings.preferredHeight = .vision ∨
      settings.magPolicy = .threeAxis ∧
        (t.height = .gps ∨ t.height = .range ∧ settings.preferredHeight = .range) := by
  have ha : a.IsUpright := by
    rw [Arbiter.eq_ofSettings_of_new h]
    exact Upright.initial _
  have hset : a.settings = settings := by rw [Arbiter.eq_ofSettings_of_new h]; rfl
  have hup : Upright settings (a.after calls).standing.status := by
    rw [← hset, ← settings_after a calls]
    exact Arbiter.after_keeps (fun _ k hb => hb.call k) calls ha
  intro t hbaro
  cases hh : t.height with
  | baro => exact absurd hh hbaro
  | gps => exact (hup.gps hh).imp_right fun hp => Or.inr ⟨hp, Or.inl rfl⟩
  | range => exact (hup.range hh).imp_right fun hp => Or.inr ⟨hp.1, Or.inr ⟨rfl, hp.2⟩⟩
  | vision => exact (hup.vision hh).imp_right fun hp => Or.inl ⟨rfl, hp⟩

end Decision

/-! ## With tilt and past it -/

/-- A height source preferred under a magnetometer policy, nothing else out of the ordinary. -/
def preferring (height : HeightSource) (policy : MagPolicy) : Settings Float :=
  { Settings.default with preferredHeight := height, magPolicy := policy }

/-- Two cycles on a core, with a fix, a distance, a pose and a field at the horizon. -/
def twoCycles (c : GatedFilter Float) : List (Call Float (GatedFilter Float)) :=
  let seen : Histories Float := { noSamples with
    gps := historyOf [⟨900000, .zero, 1.0, .zero, 1.0, 1.0, 0.5⟩]
    range := historyOf [⟨900000, 1.0⟩]
    vision := historyOf [⟨900000, .zero, .identity, 0.1, 0.1⟩]
    mag := historyOf [⟨900000, ⟨0.2, 0.0, 0.4⟩⟩] }
  [.update ⟨1000000, 900000⟩ seen c, .update ⟨1010000, 910000⟩ seen c]

/-- On a core that has found its tilt, satellite height comes after it. -/
theorem tilt_of_height_levelled :
    let settings := preferring .gps .auto
    let a : Arbiter Float := .ofSettings settings
    let t := (a.after (twoCycles .levelled)).standing.status
    Arbiter.new settings = .ok a ∧ t.height ≠ .baro ∧
      (t.tiltAligned = true ∨ t.height = .vision ∧ settings.preferredHeight = .vision ∨
        settings.magPolicy = .threeAxis ∧
          (t.height = .gps ∨ t.height = .range ∧ settings.preferredHeight = .range)) :=
  have accepted : Arbiter.new (preferring .gps .auto) = .ok (.ofSettings _) := rfl
  ⟨accepted, by decide +kernel,
    tilt_of_height accepted (twoCycles .levelled) (by decide +kernel)⟩

/-- On a core that has not, each of the three heights comes before it under settings that lead
past tilt. -/
theorem height_before_tilt :
    let reached (settings : Settings Float) : Status :=
      ((Arbiter.ofSettings settings).after (twoCycles (.ofSettings settings))).standing.status
    (Arbiter.new (preferring .vision .auto) = .ok (.ofSettings (preferring .vision .auto)) ∧
      (reached (preferring .vision .auto)).height = .vision ∧
      (reached (preferring .vision .auto)).tiltAligned = false) ∧
    (Arbiter.new (preferring .gps .threeAxis) = .ok (.ofSettings (preferring .gps .threeAxis)) ∧
      (reached (preferring .gps .threeAxis)).height = .gps ∧
      (reached (preferring .gps .threeAxis)).tiltAligned = false) ∧
    (Arbiter.new (preferring .range .threeAxis) =
        .ok (.ofSettings (preferring .range .threeAxis)) ∧
      (reached (preferring .range .threeAxis)).height = .range ∧
      (reached (preferring .range .threeAxis)).tiltAligned = false) := by
  refine ⟨⟨rfl, ?_, ?_⟩, ⟨rfl, ?_, ?_⟩, rfl, ?_, ?_⟩ <;> decide +kernel

end NavArbiter

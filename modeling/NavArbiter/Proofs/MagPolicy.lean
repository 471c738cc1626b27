/-
# The magnetometer policy

While vision does not observe yaw, the magnetometer mode after a call is the one that the policy of
the settings asks for.  The automatic policy looks at the status before the cycle:

    in the air    tilt aligned    already on three axes, or climbed    mode
    yes           yes             yes                                  three axes
    otherwise                                                          heading

Entering three axes from another mode is the only case in which a call aligns yaw anew, to the
newest field; staying there asks for nothing.

The law speaks of the mode before the cycle and of the working one.  Over a run they are the same:
the stages before the magnetometer leave the yaw observer alone unless vision takes yaw over
(`observer_upTo`).  Under the automatic policy three axes also mean that tilt is aligned, which it
stays.  So what is left to decide a cycle on three axes is whether the vehicle is in the air, and
the climb counts only on the way in.
-/
import NavArbiter.Proofs.Latches
import NavArbiter.Proofs.Ownership

namespace NavArbiter

theorem Status.magThreeAxis_iff {t : Status} : t.magThreeAxis = true ↔ t.magMode = .threeAxis :=
  beq_iff_eq

/-- The mode that a policy asks for; the automatic one asks whether three axes are due. -/
inductive MagPolicy.Asks (due : Prop) : MagPolicy → MagMode → Prop
  | autoThreeAxis : due → Asks due .auto .threeAxis
  | autoHeading : ¬ due → Asks due .auto .heading
  | heading : Asks due .heading .heading
  | threeAxis : Asks due .threeAxis .threeAxis
  | off : Asks due .off .off

theorem MagPolicy.asks_auto_iff {due : Prop} {mode : MagMode} :
    MagPolicy.Asks due .auto mode ↔ due ∧ mode = .threeAxis ∨ ¬ due ∧ mode = .heading := by
  constructor
  · rintro (due | idle)
    · exact Or.inl ⟨due, rfl⟩
    · exact Or.inr ⟨idle, rfl⟩
  · rintro (⟨due, rfl⟩ | ⟨idle, rfl⟩)
    · exact .autoThreeAxis due
    · exact .autoHeading idle

namespace Mag

variable {α C : Type} [Scalar α] [Estimator α C]

/-! ## One call -/

/-- Three axes are due under the automatic policy. -/
structure ThreeAxisDue (x : Context α) (s : Standing α) (c : C) : Prop where
  inAir : x.before.inAir = true
  tiltAligned : x.before.tiltAligned = true
  cleared : x.before.magMode = .threeAxis ∨
    x.settings.timeouts.threeAxisMinClimb < s.ground - (Estimator.nav c).position.z

/-- What a call makes of yaw alignment and of the core, with its requests, on the way into a
mode. -/
inductive Entry (x : Context α) (s : Standing α) (c : C) (mode : MagMode) :
    Bool → C → List Request → Prop
  | notEntered : mode ≠ .threeAxis ∨ s.status.magMode = .threeAxis →
      Entry x s c mode s.status.yawAligned c []
  /-- Without a field to align to, the attempt has failed before the core is asked. -/
  | unseen : mode = .threeAxis → s.status.magMode ≠ .threeAxis →
      x.histories.mag.newest? = none → Entry x s c mode false c []
  | asked {m : MagSample α} {granted : Bool} {c' : C} : mode = .threeAxis →
      s.status.magMode ≠ .threeAxis → x.histories.mag.newest? = some m →
      Estimator.resetHeading c m.field = (granted, c') →
      Entry x s c mode granted c' [.heading granted]

/-- What a call makes of a standing in which vision does not observe yaw. -/
structure Law (x : Context α) (s : Standing α) (c : C) (o : Outcome α C) : Prop where
  observer : o.standing.status.visionYaw = false
  mode : x.settings.magPolicy.Asks (ThreeAxisDue x s c) o.standing.status.magMode
  declination : o.standing.status.declination = true ↔
    o.standing.status.magMode = .threeAxis ∧
      (x.before.gps = false ∨ x.settings.fuseDeclination = true)
  entry : Entry x s c o.standing.status.magMode o.standing.status.yawAligned o.core o.requests
  owned : s.AgreeOutside Stage.mag.owned o.standing

variable (x : Context α) (s : Standing α) (c : C)

theorem autoThreeAxis_iff : autoThreeAxis x s c = true ↔ ThreeAxisDue x s c := by
  simp only [autoThreeAxis, Bool.and_eq_true, Bool.or_eq_true, decide_eq_true_eq,
    Status.magThreeAxis_iff]
  constructor
  · rintro ⟨⟨air, cleared⟩, tilt⟩
    exact ⟨air, tilt, cleared⟩
  · rintro ⟨air, tilt, cleared⟩
    exact ⟨⟨air, cleared⟩, tilt⟩

theorem target_asks : x.settings.magPolicy.Asks (ThreeAxisDue x s c) (target x s c) := by
  unfold target
  cases x.settings.magPolicy with
  | auto =>
      dsimp only
      split
      · next due => exact .autoThreeAxis ((autoThreeAxis_iff x s c).mp due)
      · next idle => exact .autoHeading (mt (autoThreeAxis_iff x s c).mpr idle)
  | heading => exact .heading
  | threeAxis => exact .threeAxis
  | off => exact .off

omit [Scalar α] in
theorem enter_entry (mode : MagMode) :
    let o := enter x mode s c
    Entry x s c mode o.standing.status.yawAligned o.core o.requests := by
  have other : (!s.status.magThreeAxis) = true ↔ s.status.magMode ≠ .threeAxis := by
    rw [Bool.not_eq_true', ← Bool.not_eq_true, Status.magThreeAxis_iff]
  unfold enter
  split
  · next entered =>
    obtain ⟨three, left⟩ := entered
    unfold Estimator.askHeadingFromMag
    cases seen : x.histories.mag.newest? with
    | none => exact .unseen three (other.mp left) seen
    | some m => exact .asked three (other.mp left) seen rfl
  · next stayed =>
    rw [other] at stayed
    exact .notEntered (by tauto)

variable {s}

omit [Scalar α] in
theorem Entry.silent {x : Context α} {c c' : C} {mode : MagMode} {aligned : Bool}
    {rs : List Request} (h : Entry x s c mode aligned c' rs)
    (three : s.status.magMode = .threeAxis) : rs = [] := by
  cases h with
  | notEntered => rfl
  | unseen _ other | asked _ other => exact absurd three other

/-- Past the way in, a call decides the status and asks for nothing. -/
theorem control_eq (magnetometer : s.status.visionYaw = false) :
    let mode := target x s c
    let entered := enter x mode s c
    let o := control x s c
    o.standing = { entered.standing with status := decideStatus x mode entered.standing } ∧
      o.core = entered.core ∧ o.requests = entered.requests := by
  simp [control, settle, magnetometer, Outcome.andThen, Outcome.unchanged]

theorem control_law (magnetometer : s.status.visionYaw = false) :
    Law x s c (control x s c) := by
  let mode := target x s c
  let entered := enter x mode s c
  obtain ⟨standing, core, requests⟩ := control_eq x c magnetometer
  have unobserved : entered.standing.status.visionYaw = false :=
    (enter_owned x s c mode .visionYaw (by decide)).trans magnetometer
  have yaw : (control x s c).standing.status.yaw = .magnetometer mode := by
    rw [standing]
    exact decideStatus_yaw x mode unobserved
  have decided : (control x s c).standing.status.magMode = mode := by rw [Status.magMode, yaw]
  refine ⟨by rw [Status.visionYaw, yaw]; rfl, ?_, ?_, ?_, mag_owned x s c⟩
  · rw [decided]
    exact target_asks x s c
  · rw [decided, standing]
    show (decideStatus x mode entered.standing).declination = true ↔ _
    rw [decideStatus_declination x mode unobserved]
    simp [and_comm]
  · have aligned : (control x s c).standing.status.yawAligned =
        entered.standing.status.yawAligned := by
      rw [standing]
      exact decideStatus_yawAligned _ _ _
    rw [decided, core, requests, aligned]
    exact enter_entry x s c mode

end Mag

/-! ## One cycle -/

section Cycle

variable {α C : Type} [Scalar α] [Estimator α C]

/-- A stage before the magnetometer leaves the yaw observer alone, or hands yaw to vision. -/
theorem observer_run {g : Stage} (hg : g ≠ .mag) (x : Context α) (s : Standing α) (c : C) :
    (g.run x s c).standing.status.yaw = .vision ∨
      (g.run x s c).standing.status.yaw = s.status.yaw := by
  have kept : ∀ {cells : List Cell} {t : Standing α}, s.AgreeOutside cells t →
      .visionYaw ∉ cells → .magMode ∉ cells → t.status.yaw = s.status.yaw :=
    fun agree vision mode => Status.yaw_eq (agree _ vision) (agree _ mode)
  cases g with
  | tilt | flow | gps | height => exact Or.inr (kept (run_owned x s c _) (by decide) (by decide))
  | vision =>
      have position : (Vision.takePosition x s c).standing.status.yaw = s.status.yaw := by
        unfold Vision.takePosition
        dsimp only
        split
        · split <;> rfl
        · rfl
      show (Vision.takeYaw x _ _).standing.status.yaw = .vision ∨
        (Vision.takeYaw x _ _).standing.status.yaw = s.status.yaw
      unfold Vision.takeYaw
      split
      · split
        · exact Or.inr position
        · exact Or.inl rfl
      · exact Or.inr position
  | mag => exact absurd rfl hg

/-- So the magnetometer finds the observer from before the cycle, or vision. -/
theorem observer_upTo (x : Context α) (s : Standing α) (c : C) :
    let found := (Stage.mag.upTo x s c).standing.status
    found.yaw = .vision ∨ found.yaw = s.status.yaw := by
  refine upTo_keeps (P := fun t => t.status.yaw = .vision ∨ t.status.yaw = s.status.yaw) c .mag
    (fun g hg t c' observer => ?_) (Or.inr rfl)
  rcases observer_run hg x t c' with vision | kept
  · exact Or.inl vision
  · rw [kept]
    exact observer

/-- The magnetometer ends the cycle. -/
theorem update_mag (a : Arbiter α) (clock : Clock) (samples : Histories α) (c : C) :
    let x := a.context clock samples
    let found := Stage.mag.upTo x a.standing c
    let o := Mag.control x found.standing found.core
    let cycle := a.update clock samples c
    cycle.arbiter.standing = o.standing ∧ cycle.requests = found.requests ++ o.requests := by
  simp [Arbiter.update_eq, settled_eq_andThen, Mag.control, Outcome.andThen]

variable {a : Arbiter α} {clock : Clock} {samples : Histories α} {c : C}

/-- Where vision has not taken over, the magnetometer found the observer from before the cycle and
left by its law. -/
theorem law_of_update (unclaimed :
      (a.update clock samples c).arbiter.standing.status.visionYaw = false) :
    let x := a.context clock samples
    let found := Stage.mag.upTo x a.standing c
    found.standing.status.yaw = a.standing.status.yaw ∧
      Mag.Law x found.standing found.core (Mag.control x found.standing found.core) := by
  intro x found
  have left := mag_owned x found.standing found.core .visionYaw (by decide)
  have unobserved : found.standing.status.visionYaw = false := by
    rw [(update_mag a clock samples c).1] at unclaimed
    exact left.symm.trans unclaimed
  refine ⟨(observer_upTo x a.standing c).resolve_left fun vision => ?_,
    Mag.control_law x found.core unobserved⟩
  rw [Status.visionYaw, vision] at unobserved
  cases unobserved

/-- On three axes with tilt aligned, the automatic policy looks at nothing but whether the vehicle
is in the air. -/
theorem threeAxis_update (auto : a.settings.magPolicy = .auto)
    (three : a.standing.status.magMode = .threeAxis)
    (tilt : a.standing.status.tiltAligned = true)
    (unclaimed : (a.update clock samples c).arbiter.standing.status.visionYaw = false) :
    let found := Stage.mag.upTo (a.context clock samples) a.standing c
    let cycle := a.update clock samples c
    (a.standing.status.inAir = true →
      cycle.arbiter.standing.status.magMode = .threeAxis ∧ cycle.requests = found.requests) ∧
    (a.standing.status.inAir = false → cycle.arbiter.standing.status.magMode = .heading) := by
  intro found cycle
  obtain ⟨kept, law⟩ := law_of_update unclaimed
  obtain ⟨standing, requests⟩ := update_mag a clock samples c
  have working : found.standing.status.magMode = .threeAxis := by
    rw [← three, Status.magMode, Status.magMode, kept]
  have mode := law.mode
  rw [show (a.context clock samples).settings.magPolicy = .auto from auto,
    MagPolicy.asks_auto_iff] at mode
  simp only [cycle, standing, requests]
  refine ⟨fun air => ?_, fun ground => ?_⟩
  · have due : Mag.ThreeAxisDue (a.context clock samples) found.standing found.core :=
      ⟨air, tilt, Or.inl three⟩
    refine ⟨(mode.resolve_right fun idle => idle.1 due).2, ?_⟩
    rw [law.entry.silent working, List.append_nil]
  · refine (mode.resolve_left fun three => ?_).2
    exact Bool.false_ne_true (ground.symm.trans three.1.inAir)

end Cycle

/-! ## Runs -/

section Run

variable {α C : Type} [Scalar α] [Estimator α C]

theorem unclaimed_of_threeAxis {t : Status} (three : t.magMode = .threeAxis) :
    t.visionYaw = false := by
  cases vision : t.visionYaw with
  | false => rfl
  | true => cases three.symm.trans (Status.magMode_of_visionYaw vision)

/-- Under the automatic policy, three axes mean aligned tilt. -/
def Arbiter.TiltedOnThreeAxes (a : Arbiter α) : Prop :=
  a.settings.magPolicy = .auto → a.standing.status.magMode = .threeAxis →
    a.standing.status.tiltAligned = true

/-- They are entered on tilt that is aligned, and it stays so. -/
theorem Arbiter.TiltedOnThreeAxes.call {a : Arbiter α} (h : a.TiltedOnThreeAxes) (k : Call α C) :
    (a.call k).TiltedOnThreeAxes := by
  cases k with
  | update clock samples c =>
      intro auto three
      have mode := (law_of_update (unclaimed_of_threeAxis three)).2.mode
      rw [show (a.context clock samples).settings.magPolicy = .auto from auto,
        MagPolicy.asks_auto_iff, ← (update_mag a clock samples c).1] at mode
      rcases mode with ⟨due, -⟩ | ⟨-, heading⟩
      · exact isSet_after (l := .tilt) [Call.update clock samples c] due.tiltAligned
      · cases three.symm.trans heading
  | setInAir | writeHealth => exact h

theorem tilted_after {settings : Settings α} {a : Arbiter α}
    (new : Arbiter.new settings = .ok a) (calls : List (Call α C)) :
    (a.after calls).TiltedOnThreeAxes := by
  refine Arbiter.after_keeps (P := Arbiter.TiltedOnThreeAxes) (fun _ k h => h.call k) calls ?_
  rw [Arbiter.eq_ofSettings_of_new new]
  exact fun _ => nofun

/-- A cycle finds the vehicle in the air; other calls find nothing. -/
def Call.FindsInAir (t : Status) : Call α C → Prop
  | .update _ _ _ => t.inAir = true
  | .setInAir _ => True
  | .writeHealth _ => True

/-- Every cycle of a run finds the vehicle in the air. -/
def Arbiter.Airborne (a : Arbiter α) : List (Call α C) → Prop
  | [] => True
  | k :: ks => k.FindsInAir a.standing.status ∧ (a.call k).Airborne ks

/-- Three axes last as long as cycles find the vehicle in the air and vision does not take over. -/
theorem threeAxis_after : ∀ {a : Arbiter α} (calls : List (Call α C)),
    a.settings.magPolicy = .auto → a.standing.status.magMode = .threeAxis →
    a.standing.status.tiltAligned = true → a.Airborne calls →
    (a.after calls).standing.status.visionYaw = false →
    (a.after calls).standing.status.magMode = .threeAxis
  | _, [], _, three, _, _, _ => three
  | a, k :: ks, auto, three, tilt, ⟨air, airborne⟩, unclaimed => by
      have policy : (a.call k).settings.magPolicy = .auto := by
        rw [show (a.call k).settings = a.settings from settings_after a [k]]
        exact auto
      have aligned : (a.call k).standing.status.tiltAligned = true :=
        isSet_after (l := .tilt) [k] tilt
      have unclaimed_call : (a.call k).standing.status.visionYaw = false := by
        refine Bool.eq_false_iff.mpr fun claimed => ?_
        have still := isSet_after (l := .visionYaw) ks claimed
        exact Bool.false_ne_true (unclaimed.symm.trans still)
      have stays : (a.call k).standing.status.magMode = .threeAxis := by
        cases k with
        | update => exact ((threeAxis_update auto three tilt unclaimed_call).1 air).1
        | setInAir | writeHealth => exact three
      exact threeAxis_after ks policy stays aligned airborne unclaimed

/-- Every call of the magnetometer controller while vision does not observe yaw, whatever the
context, the standing and the core, keeps the law: the mode is what the policy asks for, declination
is fused exactly on three axes without satellite navigation or on request, and a heading is asked
for, with the newest field, exactly when three axes are entered, which is also when yaw alignment
is written, with the answer.

So in every run under the automatic policy, from any point at which the magnetometer is on three
axes on: as long as every cycle finds the vehicle in the air and vision does not take yaw over, it
stays on three axes at any height, in cycles in which the magnetometer controller asks for nothing;
and the first cycle that finds the vehicle on the ground ends it. -/
theorem mag_policy :
    (∀ (x : Context α) (s : Standing α) (c : C), s.status.visionYaw = false →
      Mag.Law x s c (Mag.control x s c)) ∧
    ∀ {settings : Settings α} {a : Arbiter α}, Arbiter.new settings = .ok a →
      settings.magPolicy = .auto →
      ∀ calls : List (Call α C), (a.after calls).standing.status.magMode = .threeAxis →
      ∀ later : List (Call α C), (a.after calls).Airborne later →
      ∀ (clock : Clock) (samples : Histories α) (c : C),
        (∀ turn, .visionYawStarted turn ∉
          (a.after calls).journal (later ++ [.update clock samples c])) →
        let b := (a.after calls).after later
        let found := Stage.mag.upTo (b.context clock samples) b.standing c
        let cycle := b.update clock samples c
        b.standing.status.magMode = .threeAxis ∧
        (b.standing.status.inAir = true →
          cycle.arbiter.standing.status.magMode = .threeAxis ∧ cycle.requests = found.requests) ∧
        (b.standing.status.inAir = false →
          cycle.arbiter.standing.status.magMode = .heading) := by
  refine ⟨fun x s c magnetometer => Mag.control_law x c magnetometer, ?_⟩
  intro settings a new auto calls three later airborne clock samples c silent b found cycle
  have policy : ∀ run : List (Call α C), (a.after run).settings.magPolicy = .auto := fun run => by
    rw [settings_after, Arbiter.eq_ofSettings_of_new new]
    exact auto
  have tilt := tilted_after new calls (policy calls) three
  -- no cycle up to the last one gave yaw to vision
  have unclaimed : cycle.arbiter.standing.status.visionYaw = false := by
    have kept := isSet_after_of_silent (l := .visionYaw) (a := a.after calls)
      (later ++ [.update clock samples c]) fun e he hl => by
        obtain ⟨turn, rfl⟩ := Event.latch?_eq_visionYaw.mp hl
        exact silent turn he
    rw [Arbiter.after, List.foldl_append] at kept
    exact kept.trans (unclaimed_of_threeAxis three)
  have unclaimed_before : b.standing.status.visionYaw = false := by
    refine Bool.eq_false_iff.mpr fun claimed => ?_
    have still := isSet_after (l := .visionYaw) [Call.update clock samples c] claimed
    exact Bool.false_ne_true (unclaimed.symm.trans still)
  have stays := threeAxis_after later (policy calls) three tilt airborne unclaimed_before
  have aligned : b.standing.status.tiltAligned = true := isSet_after (l := .tilt) later tilt
  have auto_b : b.settings.magPolicy = .auto := by
    rw [show b.settings = (a.after calls).settings from settings_after _ later]
    exact policy calls
  exact ⟨stays, threeAxis_update auto_b stays aligned unclaimed⟩

end Run

/-- Three axes are entered on a climb, kept back down, and left on landing. -/
theorem mag_policy_landing :
    let low : GatedFilter Float := .levelled
    let high : GatedFilter Float :=
      { low with nav := { low.nav with position := ⟨0.0, 0.0, -20.0⟩ } }
    let a : Arbiter Float := .ofSettings .default
    let calls : List (Call Float (GatedFilter Float)) :=
      [.update ⟨1000000, 900000⟩ poseAndField low, .setInAir true,
        .update ⟨1010000, 910000⟩ poseAndField high]
    let later : List (Call Float (GatedFilter Float)) :=
      [.update ⟨1020000, 920000⟩ poseAndField low, .setInAir false]
    let b := (a.after calls).after later
    (a.after calls).standing.status.magMode = .threeAxis ∧
      b.standing.status.magMode = .threeAxis ∧
      (b.update ⟨1030000, 930000⟩ poseAndField low).arbiter.standing.status.magMode = .heading := by
  intro low high a calls later b
  have new : Arbiter.new (Settings.default : Settings Float) = .ok a := rfl
  have three : (a.after calls).standing.status.magMode = .threeAxis := by decide +kernel
  have air : (a.after calls).standing.status.inAir = true := by decide +kernel
  have airborne : (a.after calls).Airborne later := ⟨air, trivial, trivial⟩
  let last : Call Float (GatedFilter Float) := .update ⟨1030000, 930000⟩ poseAndField low
  have silent : ∀ turn, .visionYawStarted turn ∉ (a.after calls).journal (later ++ [last]) := by
    intro turn claimed
    have none : Latch.visionYaw.announced ((a.after calls).journal (later ++ [last])) = 0 := by
      decide +kernel
    have some := Latch.announced_pos_iff.mpr ⟨_, claimed, Event.latch?_eq_visionYaw.mpr ⟨turn, rfl⟩⟩
    exact some.ne' none
  obtain ⟨-, hysteresis⟩ := mag_policy (α := Float) (C := GatedFilter Float)
  obtain ⟨stays, -, ends⟩ := hysteresis new rfl calls three later airborne ⟨1030000, 930000⟩
    poseAndField low silent
  exact ⟨three, stays, ends (by decide +kernel)⟩

end NavArbiter

/-
# Laws of the status

A source of position or yaw is in use only after tilt was aligned and only if the settings allow
it; declination is fused only on three axes, and not at all while vision observes yaw.  `Lawful`
says this of a status.  Activations are decided on the status before the cycle and written into
the working one, so a decision keeps the laws given that both are lawful and that tilt, once
aligned, is still aligned (`lawful_decision`).

What the cycle leaves alone is stated beside it: a decision never touches the word of the landing
detector, and only one of them touches tilt.
-/
import NavArbiter.Proofs.Decision
import NavArbiter.Proofs.Exact
import NavArbiter.Proofs.Run

namespace NavArbiter

/-- The laws of a status under the sources allowed. -/
structure Lawful (allowed : Allowed) (t : Status) : Prop where
  gps : t.gps = true → t.tiltAligned = true ∧ allowed.gps = true
  flow : t.flow = true → t.tiltAligned = true ∧ allowed.flow = true
  visionPosition : t.visionPosition = true → t.tiltAligned = true ∧ allowed.visionPosition = true
  visionYaw : t.visionYaw = true → t.tiltAligned = true ∧ allowed.visionYaw = true
  declination : t.declination = true → t.magThreeAxis = true

theorem Status.magMode_of_visionYaw {t : Status} (h : t.visionYaw = true) : t.magMode = .off := by
  have hy : t.yaw = .vision := eq_of_beq h
  rw [Status.magMode, hy]

namespace Lawful

theorem initial (allowed : Allowed) : Lawful allowed .initial where
  gps := nofun
  flow := nofun
  visionPosition := nofun
  visionYaw := nofun
  declination := nofun

variable {allowed : Allowed} {t : Status}

/-- The laws speak neither of yaw alignment, nor of the landing detector or the height source. -/
theorem of_frame (h : Lawful allowed t) (yawAligned inAir : Bool) (height : HeightSource) :
    Lawful allowed { t with yawAligned := yawAligned, inAir := inAir, height := height } :=
  ⟨h.gps, h.flow, h.visionPosition, h.visionYaw, h.declination⟩

/-- No magnetometer mode and no declination beside vision yaw. -/
theorem mag_of_visionYaw (h : Lawful allowed t) (hv : t.visionYaw = true) :
    t.magHeading = false ∧ t.magThreeAxis = false ∧ t.declination = false := by
  have hm := Status.magMode_of_visionYaw hv
  have h3 : t.magThreeAxis = false := by rw [Status.magThreeAxis, hm]; rfl
  refine ⟨by rw [Status.magHeading, hm]; rfl, h3, ?_⟩
  cases hd : t.declination with
  | false => rfl
  | true => exact absurd (h.declination hd) (by rw [h3]; decide)

end Lawful

section Decision

variable {α C : Type} [Scalar α] [Estimator α C] {x : Context α} {s : Standing α} {c : C}
  {o : Outcome α C}

omit [Scalar α] in
/-- Whatever the magnetometer controller settles is lawful. -/
theorem lawful_decideStatus {mode : MagMode} (hs : Lawful x.settings.allowed s.status)
    (hv : s.status.visionYaw = false) :
    Lawful x.settings.allowed (Mag.decideStatus x mode s) := by
  have hy := decideStatus_yaw x mode hv
  have hd := decideStatus_declination x mode hv
  obtain ⟨yaw, declination, wind, h⟩ := decideStatus_frame x mode s
  rw [h] at hy hd ⊢
  subst hy hd
  refine ⟨hs.gps, hs.flow, hs.visionPosition, nofun, fun h => ?_⟩
  exact (Bool.and_eq_true_iff.mp h).2

/-- A decision keeps the laws, as long as tilt is still aligned if it was before the cycle. -/
theorem lawful_decision
    (ht : x.before.tiltAligned = true → s.status.tiltAligned = true)
    (hs : Lawful x.settings.allowed s.status) (h : Decision x s c o) :
    Lawful x.settings.allowed o.standing.status := by
  cases h with
  | alignTilt =>
      exact ⟨fun h => ⟨rfl, (hs.gps h).2⟩, fun h => ⟨rfl, (hs.flow h).2⟩,
        fun h => ⟨rfl, (hs.visionPosition h).2⟩, fun h => ⟨rfl, (hs.visionYaw h).2⟩,
        hs.declination⟩
  | startVisionPosition _ hw =>
      simp only [Vision.wantsPosition, Bool.and_eq_true] at hw
      obtain ⟨⟨⟨⟨ha, -⟩, htb⟩, -⟩, -⟩ := hw
      exact ⟨hs.gps, hs.flow, fun _ => ⟨ht htb, ha⟩, hs.visionYaw, hs.declination⟩
  | startVisionYaw _ _ hw =>
      simp only [Vision.wantsYaw, Bool.and_eq_true] at hw
      obtain ⟨⟨⟨ha, -⟩, htb⟩, -⟩ := hw
      exact ⟨hs.gps, hs.flow, hs.visionPosition, fun _ => ⟨ht htb, ha⟩,
        fun h => absurd h Bool.false_ne_true⟩
  | startFlow _ ha hw _ =>
      simp only [Flow.wantsStart, Bool.and_eq_true] at hw
      obtain ⟨⟨⟨-, htb⟩, -⟩, -⟩ := hw
      exact ⟨hs.gps, fun _ => ⟨ht htb, ha⟩, hs.visionPosition, hs.visionYaw, hs.declination⟩
  | loseFlow | disableFlow =>
      exact ⟨hs.gps, fun h => absurd h Bool.false_ne_true, hs.visionPosition, hs.visionYaw,
        hs.declination⟩
  | startGpsBesideFlow _ hd _ | startGps _ hd _ =>
      exact ⟨fun _ => ⟨ht hd.tiltAligned, hd.allowed⟩, hs.flow, hs.visionPosition, hs.visionYaw,
        hs.declination⟩
  | loseGps | disableGps =>
      exact ⟨fun h => absurd h Bool.false_ne_true, hs.flow, hs.visionPosition, hs.visionYaw,
        hs.declination⟩
  | alignYaw | resetHeight | selectPreferred => exact hs.of_frame _ _ _
  | settleMag _ hv _ => exact lawful_decideStatus hs hv
  | enterThreeAxis _ granted hv _ _ _ =>
      exact lawful_decideStatus (s := s.setYawAligned granted) (hs.of_frame _ _ _) hv
  | _ => exact hs

/-- No decision touches the word of the landing detector. -/
theorem inAir_decision (h : Decision x s c o) :
    o.standing.status.inAir = s.status.inAir := by
  cases h with
  | settleMag | enterThreeAxis => exact decideStatus_inAir _ _ _
  | _ => rfl

/-- Only the alignment of tilt touches tilt, and it is announced. -/
theorem tilt_decision (h : Decision x s c o) :
    o.standing.status.tiltAligned = s.status.tiltAligned ∨
      o.standing.status.tiltAligned = true ∧ ∃ yaw, o.events = [.tiltAligned yaw] := by
  cases h with
  | alignTilt => exact Or.inr ⟨rfl, _, rfl⟩
  | settleMag | enterThreeAxis => exact Or.inl (decideStatus_tiltAligned _ _ _)
  | _ => exact Or.inl rfl

/-- Under the laws nothing is in use that could be switched off by the settings. -/
theorem not_disabled_decision (hb : Lawful x.settings.allowed x.before)
    (h : Decision x s c o) : .gpsDisabled ∉ o.events ∧ .flowDisabled ∉ o.events := by
  cases h with
  | disableGps _ ha hg => exact absurd (hb.gps hg).2 (by rw [ha]; decide)
  | disableFlow _ ha hf => exact absurd (hb.flow hf).2 (by rw [ha]; decide)
  | _ => simp

/-- What the decisions of a cycle have kept so far. -/
structure LawfulSoFar (x : Context α) (o : Outcome α C) : Prop where
  lawful : Lawful x.settings.allowed o.standing.status
  inAir : o.standing.status.inAir = x.before.inAir
  tilt : o.standing.status.tiltAligned = x.before.tiltAligned ∨
    o.standing.status.tiltAligned = true ∧ ∃ yaw, .tiltAligned yaw ∈ o.events
  notDisabled : .gpsDisabled ∉ o.events ∧ .flowDisabled ∉ o.events

omit [Scalar α] [Estimator α C] in
theorem LawfulSoFar.tiltAligned {o : Outcome α C} (h : LawfulSoFar x o)
    (hb : x.before.tiltAligned = true) : o.standing.status.tiltAligned = true := by
  rcases h.tilt with ht | ⟨ht, -⟩
  · rw [ht, hb]
  · exact ht

theorem LawfulSoFar.more {o p : Outcome α C} (hb : Lawful x.settings.allowed x.before)
    (h : LawfulSoFar x o) (hd : Decision x o.standing o.core p) :
    LawfulSoFar x (o.andThen fun _ _ => p) where
  lawful := lawful_decision (o := p) h.tiltAligned h.lawful hd
  inAir := (inAir_decision hd).trans h.inAir
  tilt := by
    rcases tilt_decision hd with ht | ⟨ht, yaw, he⟩
    · rcases h.tilt with hs | ⟨hs, yaw, hm⟩
      · exact Or.inl (ht.trans hs)
      · exact Or.inr ⟨ht.trans hs, yaw, List.mem_append_left _ hm⟩
    · refine Or.inr ⟨ht, yaw, List.mem_append_right _ ?_⟩
      rw [he]
      exact List.mem_singleton_self _
  notDisabled := by
    obtain ⟨hg, hf⟩ := not_disabled_decision hb hd
    exact ⟨fun h' => (List.mem_append.mp h').elim h.notDisabled.1 hg,
      fun h' => (List.mem_append.mp h').elim h.notDisabled.2 hf⟩

end Decision

/-! ## Cycles and runs -/

section Run

variable {α C : Type} [Scalar α] [Estimator α C]

theorem lawfulSoFar_settled {x : Context α} {s : Standing α} (c : C) (hx : s.status = x.before)
    (hb : Lawful x.settings.allowed x.before) : LawfulSoFar x (Arbiter.settled x s c) := by
  have start : LawfulSoFar x (.unchanged s c) :=
    ⟨hx ▸ hb, congrArg Status.inAir hx, Or.inl (congrArg Status.tiltAligned hx),
      List.not_mem_nil, List.not_mem_nil⟩
  exact (Arbiter.settled_decisions x s c).keep start fun _ _ h hd => h.more hb hd

omit [Scalar α] in
/-- The magnetometer group and the wind are all that is announced at the end of a cycle. -/
theorem mem_announce {before now : Status} {e : Event α} (h : e ∈ Mag.announce before now) :
    e = .magModeChanged before.magMode now.magMode ∨ e = .declinationFusion now.declination ∨
      e = .windValidity now.windValid := by
  simp only [Mag.announce, List.mem_append] at h
  rcases h with (h | h) | h <;> split at h <;> simp_all

/-- An arbiter whose status is lawful under its own settings. -/
def Arbiter.IsLawful (a : Arbiter α) : Prop := Lawful a.settings.allowed a.standing.status

theorem Arbiter.IsLawful.call {a : Arbiter α} (h : a.IsLawful) (k : Call α C) :
    (a.call k).IsLawful := by
  cases k with
  | update clock hs c =>
      rw [Arbiter.call, Arbiter.update_eq]
      exact (lawfulSoFar_settled (x := a.context clock hs) c rfl h).lawful
  | setInAir inAir => exact Lawful.of_frame h _ _ _
  | writeHealth _ => exact h

theorem not_disabled_call {a : Arbiter α} (h : a.IsLawful) (k : Call α C) :
    .gpsDisabled ∉ a.eventsOf k ∧ .flowDisabled ∉ a.eventsOf k := by
  cases k with
  | update clock hs c =>
      have hl := lawfulSoFar_settled (x := a.context clock hs) c rfl h
      rw [Arbiter.eventsOf, Arbiter.update_eq]
      refine ⟨fun hm => ?_, fun hm => ?_⟩ <;> rcases List.mem_append.mp hm with hm | hm
      · exact hl.notDisabled.1 hm
      · rcases mem_announce hm with he | he | he <;> cases he
      · exact hl.notDisabled.2 hm
      · rcases mem_announce hm with he | he | he <;> cases he
  | setInAir _ => exact ⟨List.not_mem_nil, List.not_mem_nil⟩
  | writeHealth _ => exact ⟨List.not_mem_nil, List.not_mem_nil⟩

/-- A call that changes tilt is a cycle that announces its alignment. -/
theorem tilt_call {a : Arbiter α} (h : a.IsLawful) (k : Call α C) :
    (a.call k).standing.status.tiltAligned = a.standing.status.tiltAligned ∨
      ∃ yaw, .tiltAligned yaw ∈ a.eventsOf k := by
  cases k with
  | update clock hs c =>
      rw [Arbiter.call, Arbiter.eventsOf, Arbiter.update_eq]
      rcases (lawfulSoFar_settled (x := a.context clock hs) c rfl h).tilt with ht | ⟨-, yaw, hm⟩
      · exact Or.inl ht
      · exact Or.inr ⟨yaw, List.mem_append_left _ hm⟩
  | setInAir _ => exact Or.inl rfl
  | writeHealth _ => exact Or.inl rfl

/-- A call leaves the settings as they are. -/
theorem settings_after (a : Arbiter α) (calls : List (Call α C)) :
    (a.after calls).settings = a.settings := by
  refine Arbiter.after_keeps (P := fun b => b.settings = a.settings) ?_ calls rfl
  intro b k hb
  cases k <;> exact hb

/-- The laws of the status hold throughout every run of a new arbiter: what needs tilt has it, what
is in use is allowed and so never switched off, declination is fused on three axes only and not
beside vision yaw.  A cycle leaves the word of the landing detector alone, and tilt changes in no
call but a cycle that announces it. -/
theorem status_laws {settings : Settings α} {a : Arbiter α} (h : Arbiter.new settings = .ok a)
    (calls : List (Call α C)) :
    let b := a.after calls
    let t := b.standing.status
    (t.gps = true ∨ t.flow = true ∨ t.visionPosition = true ∨ t.visionYaw = true →
      t.tiltAligned = true) ∧
    ((t.gps = true → settings.allowed.gps = true) ∧
      (t.flow = true → settings.allowed.flow = true) ∧
      (t.visionPosition = true → settings.allowed.visionPosition = true) ∧
      (t.visionYaw = true → settings.allowed.visionYaw = true) ∧
      .gpsDisabled ∉ a.journal calls ∧ .flowDisabled ∉ a.journal calls) ∧
    ((t.declination = true → t.magThreeAxis = true) ∧
      (t.visionYaw = true →
        t.magHeading = false ∧ t.magThreeAxis = false ∧ t.declination = false)) ∧
    (∀ clock histories (c : C),
      (b.update clock histories c).arbiter.standing.status.inAir = t.inAir) ∧
    ∀ k : Call α C, (b.call k).standing.status.tiltAligned ≠ t.tiltAligned →
      ∃ yaw, .tiltAligned yaw ∈ b.eventsOf k := by
  have ha : a.IsLawful := by
    rw [Arbiter.eq_ofSettings_of_new h]
    exact Lawful.initial _
  have step : ∀ (b : Arbiter α) (k : Call α C), b.IsLawful → (b.call k).IsLawful :=
    fun _ k hb => hb.call k
  have hset : a.settings = settings := by rw [Arbiter.eq_ofSettings_of_new h]; rfl
  have hb : (a.after calls).IsLawful := Arbiter.after_keeps step calls ha
  have laws : Lawful settings.allowed (a.after calls).standing.status := by
    rw [← hset, ← settings_after a calls]
    exact hb
  refine ⟨?_, ⟨fun h => (laws.gps h).2, fun h => (laws.flow h).2,
    fun h => (laws.visionPosition h).2, fun h => (laws.visionYaw h).2, fun he => ?_, fun he => ?_⟩,
    ⟨laws.declination, laws.mag_of_visionYaw⟩, fun clock histories c => ?_, fun k hk => ?_⟩
  · rintro (h | h | h | h)
    · exact (laws.gps h).1
    · exact (laws.flow h).1
    · exact (laws.visionPosition h).1
    · exact (laws.visionYaw h).1
  · obtain ⟨b, k, hb, he⟩ := Arbiter.exists_of_mem_journal step ha he
    exact (not_disabled_call hb k).1 he
  · obtain ⟨b, k, hb, he⟩ := Arbiter.exists_of_mem_journal step ha he
    exact (not_disabled_call hb k).2 he
  · rw [Arbiter.update_eq]
    exact (lawfulSoFar_settled (x := (a.after calls).context clock histories) c rfl hb).inAir
  · exact (tilt_call hb k).resolve_left hk

end Run

/-- On the settings in force unless told otherwise. -/
theorem status_laws_shortFlight :
    let a : Arbiter ℝ := .ofSettings .default
    Arbiter.new (Settings.default : Settings ℝ) = .ok a ∧
      .gpsDisabled ∉ a.journal shortFlight ∧ .flowDisabled ∉ a.journal shortFlight :=
  ⟨Arbiter.new_default, (status_laws Arbiter.new_default shortFlight).2.1.2.2.2.2⟩

end NavArbiter

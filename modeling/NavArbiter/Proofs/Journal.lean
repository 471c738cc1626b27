/-
# The events are a complete journal

Whoever starts from the status of a new arbiter and follows its events knows the aiding
configuration at every moment: tilt, the sources of position and yaw in use, the source of height,
and the magnetometer group with the wind estimate.  `Configuration.note` is the rule by which an
event is followed.

The magnetometer group is written by two controllers and announced once, at the end of a cycle, by
comparison with the status before the cycle.  So within a cycle the events are behind: they show
the group as it was before, which is what `Configuration.unannounced` says and each decision keeps
(`replay_decision`).
-/
import NavArbiter.Proofs.Decision
import NavArbiter.Proofs.Exact
import NavArbiter.Proofs.Run

namespace NavArbiter

/-- The part of the status that events announce. -/
structure Configuration where
  tiltAligned : Bool
  visionPosition : Bool
  visionYaw : Bool
  flow : Bool
  gps : Bool
  height : HeightSource
  magMode : MagMode
  declination : Bool
  windValid : Bool
  deriving DecidableEq, Repr

namespace Configuration

variable {α : Type}

/-- The configuration that a status holds. -/
def ofStatus (t : Status) : Configuration where
  tiltAligned := t.tiltAligned
  visionPosition := t.visionPosition
  visionYaw := t.visionYaw
  flow := t.flow
  gps := t.gps
  height := t.height
  magMode := t.magMode
  declination := t.declination
  windValid := t.windValid

/-- The configuration after an event, from the event alone. -/
def note (k : Configuration) : Event α → Configuration
  | .tiltAligned _ => { k with tiltAligned := true }
  | .visionPositionStarted => { k with visionPosition := true, height := .vision }
  | .visionYawStarted _ => { k with visionYaw := true }
  | .flowStarted => { k with flow := true }
  | .flowLost _ => { k with flow := false }
  | .flowDisabled => { k with flow := false }
  | .gpsStarted => { k with gps := true }
  | .gpsLost _ => { k with gps := false }
  | .gpsDisabled => { k with gps := false }
  | .heightReset _ target => { k with height := target }
  | .heightSourceSelected source => { k with height := source }
  | .magModeChanged _ target => { k with magMode := target }
  | .declinationFusion enabled => { k with declination := enabled }
  | .windValidity valid => { k with windValid := valid }
  | .visionPositionResetFailed => k
  | .gpsActivationFailed => k
  | .gpsResetToMeasurement => k
  | .gpsResetFailed => k
  | .inertialFaultSuspected => k
  | .heightResetDenied _ => k
  | .heightResetFailed _ _ => k

/-- The configuration after events in their order. -/
def replay (k : Configuration) (es : List (Event α)) : Configuration := es.foldl note k

theorem replay_append (k : Configuration) (es fs : List (Event α)) :
    k.replay (es ++ fs) = (k.replay es).replay fs :=
  List.foldl_append

/-- The configuration of a status within a cycle, with the magnetometer group as it was before. -/
def unannounced (before t : Status) : Configuration :=
  { ofStatus t with
    magMode := before.magMode
    declination := before.declination
    windValid := before.windValid }

/-- The announcement makes up for what is not announced yet. -/
theorem replay_announce (before t : Status) :
    (unannounced before t).replay (Mag.announce (α := α) before t) = ofStatus t := by
  unfold Mag.announce
  rw [replay_append, replay_append]
  by_cases hm : before.magMode = t.magMode <;> by_cases hd : before.declination = t.declination <;>
    by_cases hw : before.windValid = t.windValid <;>
    simp [hm, hd, hw, replay, note, unannounced, ofStatus]

variable {C : Type} [Scalar α] [Estimator α C] {x : Context α} {s : Standing α} {c : C}
  {o : Outcome α C}

omit [Scalar α] in
/-- Settling the magnetometer group stays unannounced as a whole. -/
theorem unannounced_decideStatus (before : Status) (mode : MagMode)
    (h : s.status.visionYaw = false) :
    unannounced before (Mag.decideStatus x mode s) = unannounced before s.status := by
  have hv : (Mag.decideStatus x mode s).visionYaw = s.status.visionYaw := by
    rw [Status.visionYaw, decideStatus_yaw x mode h, h]
    rfl
  obtain ⟨yaw, declination, wind, hf⟩ := decideStatus_frame x mode s
  simp only [unannounced, ofStatus, hv]
  rw [hf]

/-- A decision announces what it writes, up to the magnetometer group. -/
theorem replay_decision (h : Decision x s c o) :
    (unannounced x.before s.status).replay o.events = unannounced x.before o.standing.status := by
  cases h with
  | settleMag _ hv _ => exact (unannounced_decideStatus x.before _ hv).symm
  | enterThreeAxis _ granted hv _ _ _ =>
      exact (unannounced_decideStatus (s := s.setYawAligned granted) x.before _ hv).symm
  | _ => rfl

/-- So do decisions one after another. -/
theorem replay_decisions (h : Decisions x s c o) :
    (unannounced x.before s.status).replay o.events = unannounced x.before o.standing.status := by
  induction h with
  | none => rfl
  | more _ hd ih =>
      refine (replay_append _ _ _).trans ?_
      rw [ih, replay_decision hd]
      rfl

/-- The events of a cycle lead from the configuration before it to the one after it. -/
theorem replay_update (a : Arbiter α) (clock : Clock) (h : Histories α) (c : C) :
    (ofStatus a.standing.status).replay (a.update clock h c).events
      = ofStatus (a.update clock h c).arbiter.standing.status := by
  have hd := replay_decisions (Arbiter.settled_decisions (a.context clock h) a.standing c)
  rw [Arbiter.update_eq]
  refine (replay_append _ _ _).trans ?_
  exact (congrArg (fun k => replay k _) hd).trans (replay_announce _ _)

theorem replay_call (a : Arbiter α) (k : Call α C) :
    (ofStatus a.standing.status).replay (a.eventsOf k) = ofStatus (a.call k).standing.status := by
  cases k with
  | update clock h c => exact replay_update a clock h c
  | setInAir inAir => rfl
  | writeHealth h => rfl

theorem replay_run : ∀ (a : Arbiter α) (calls : List (Call α C)),
    (ofStatus a.standing.status).replay (a.journal calls) = ofStatus (a.after calls).standing.status
  | _, [] => rfl
  | a, k :: ks => by
      rw [Arbiter.journal, replay_append, replay_call, replay_run (a.call k) ks]
      rfl

/-- The journal of any run from a new arbiter, read from the start, shows the configuration in
force. -/
theorem journal_complete {settings : Settings α} {a : Arbiter α}
    (h : Arbiter.new settings = .ok a) (calls : List (Call α C)) :
    (ofStatus .initial).replay (a.journal calls) = ofStatus (a.after calls).standing.status := by
  rw [Arbiter.eq_ofSettings_of_new h]
  exact replay_run (Arbiter.ofSettings settings) calls

/-- On the settings in force unless told otherwise. -/
theorem journal_complete_shortFlight :
    let a : Arbiter ℝ := .ofSettings .default
    Arbiter.new (Settings.default : Settings ℝ) = .ok a ∧
      (ofStatus .initial).replay (a.journal shortFlight)
        = ofStatus (a.after shortFlight).standing.status :=
  ⟨Arbiter.new_default, journal_complete Arbiter.new_default shortFlight⟩

end Configuration

end NavArbiter

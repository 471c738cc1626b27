/-
# Partial settings

A settings document may give any of the fields, in any order, at both of its levels:

    document                                        outcome
    every known field at most once, well typed      the default settings overwritten by what is
                                                    given, or the first limit that these break
    a known field of one object repeated            a fault of the document

What is given is a value of its own, `Settings.Partial`, in which neither the order nor an unknown
field has a trace.  So the outcome, limits included, is a function of it, and documents that give
the same have the same outcome (`partial_settings`).
-/
import NavArbiter.CommandLine.Batch
import NavArbiter.Proofs.RecordOrder
import NavArbiter.Proofs.SettingsRange
import NavArbiter.Proofs.StatusLaws

namespace NavArbiter

open Json Json.Decode

/-! ## What a document gives -/

/-- The record that is given under a name; one that is left out gives nothing. -/
def Json.group (ms : Members) (name : String) : Members :=
  match ms.lookup name with
  | some (.record ks _ _) => ks.filterMap fun k => k.1.toOption.map (·, k.2)
  | _ => []

/-- Some of the sources that may be allowed. -/
structure Allowed.Partial where
  gps : Option Bool
  flow : Option Bool
  visionPosition : Option Bool
  visionYaw : Option Bool

/-- Some of the timeouts. -/
structure Timeouts.Partial where
  gpsFailCooldown : Option Nat
  gpsFusionTimeout : Option Nat
  gpsDataMaxAge : Option Nat
  flowFusionTimeout : Option Nat
  flowDataMaxAge : Option Nat
  heightFusionTimeout : Option Nat
  inertialFaultMemory : Option Nat
  airspeedTimeout : Option Nat
  tiltAlignVariance : Option Float
  threeAxisMinClimb : Option Float

/-- Some of the settings. -/
structure Settings.Partial where
  allowed : Allowed.Partial
  preferredHeight : Option HeightSource
  magPolicy : Option MagPolicy
  fuseDeclination : Option Bool
  heightResetLimit : Option Float
  requiredVerticalAccuracy : Option Float
  baroNoise : Option Float
  baroGate : Option Float
  groundClearance : Option Float
  flowNoise : Option Float
  flowNoiseWorst : Option Float
  flowMinQuality : Option UInt8
  baroMaxInterval : Option Nat
  gpsMaxInterval : Option Nat
  rangeMaxInterval : Option Nat
  visionMaxInterval : Option Nat
  timeouts : Timeouts.Partial

namespace Allowed

/-- What members give. -/
def Partial.ofMembers (ms : Members) : Partial where
  gps := given ms "use_gps" Decode.bool
  flow := given ms "use_optical_flow" Decode.bool
  visionPosition := given ms "use_ev_pos" Decode.bool
  visionYaw := given ms "use_ev_yaw" Decode.bool

/-- The allowed sources overwritten by those that are given. -/
def Partial.over (p : Partial) (a : Allowed) : Allowed where
  gps := p.gps.getD a.gps
  flow := p.flow.getD a.flow
  visionPosition := p.visionPosition.getD a.visionPosition
  visionYaw := p.visionYaw.getD a.visionYaw

end Allowed

namespace Timeouts

/-- What members give. -/
def Partial.ofMembers (ms : Members) : Partial where
  gpsFailCooldown := given ms "gps_fail_cooldown_us" Decode.time
  gpsFusionTimeout := given ms "gps_fusion_timeout_us" Decode.time
  gpsDataMaxAge := given ms "gps_data_max_age_us" Decode.time
  flowFusionTimeout := given ms "flow_fusion_timeout_us" Decode.time
  flowDataMaxAge := given ms "flow_data_max_age_us" Decode.time
  heightFusionTimeout := given ms "hgt_fusion_timeout_us" Decode.time
  inertialFaultMemory := given ms "bad_vert_accel_memory_us" Decode.time
  airspeedTimeout := given ms "airspeed_timeout_us" Decode.time
  tiltAlignVariance := given ms "tilt_align_var" Decode.float
  threeAxisMinClimb := given ms "mag_3d_min_climb" Decode.float

/-- The timeouts overwritten by those that are given. -/
def Partial.over (p : Partial) (t : Timeouts Float) : Timeouts Float where
  gpsFailCooldown := p.gpsFailCooldown.getD t.gpsFailCooldown
  gpsFusionTimeout := p.gpsFusionTimeout.getD t.gpsFusionTimeout
  gpsDataMaxAge := p.gpsDataMaxAge.getD t.gpsDataMaxAge
  flowFusionTimeout := p.flowFusionTimeout.getD t.flowFusionTimeout
  flowDataMaxAge := p.flowDataMaxAge.getD t.flowDataMaxAge
  heightFusionTimeout := p.heightFusionTimeout.getD t.heightFusionTimeout
  inertialFaultMemory := p.inertialFaultMemory.getD t.inertialFaultMemory
  airspeedTimeout := p.airspeedTimeout.getD t.airspeedTimeout
  tiltAlignVariance := p.tiltAlignVariance.getD t.tiltAlignVariance
  threeAxisMinClimb := p.threeAxisMinClimb.getD t.threeAxisMinClimb

end Timeouts

namespace Settings

/-- What members give, in the document and in the groups inside it. -/
def Partial.ofMembers (ms : Members) : Partial where
  allowed := .ofMembers (group ms "fusion_mode")
  preferredHeight := given ms "vdist_sensor_type" HeightSource.decode
  magPolicy := given ms "mag_fusion_type" MagPolicy.decode
  fuseDeclination := given ms "fuse_declination" Decode.bool
  heightResetLimit := given ms "hgt_reset_lim" Decode.float
  requiredVerticalAccuracy := given ms "req_vacc" Decode.float
  baroNoise := given ms "baro_noise" Decode.float
  baroGate := given ms "baro_innov_gate" Decode.float
  groundClearance := given ms "rng_gnd_clearance" Decode.float
  flowNoise := given ms "flow_noise" Decode.float
  flowNoiseWorst := given ms "flow_noise_qual_min" Decode.float
  flowMinQuality := given ms "flow_qual_min" Decode.octet
  baroMaxInterval := given ms "baro_max_interval_us" Decode.time
  gpsMaxInterval := given ms "gps_max_interval_us" Decode.time
  rangeMaxInterval := given ms "rng_max_interval_us" Decode.time
  visionMaxInterval := given ms "ev_max_interval_us" Decode.time
  timeouts := .ofMembers (group ms "timeouts")

/-- The settings overwritten by those that are given. -/
def Partial.over (p : Partial) (s : Settings Float) : Settings Float where
  allowed := p.allowed.over s.allowed
  preferredHeight := p.preferredHeight.getD s.preferredHeight
  magPolicy := p.magPolicy.getD s.magPolicy
  fuseDeclination := p.fuseDeclination.getD s.fuseDeclination
  heightResetLimit := p.heightResetLimit.getD s.heightResetLimit
  requiredVerticalAccuracy := p.requiredVerticalAccuracy.getD s.requiredVerticalAccuracy
  baroNoise := p.baroNoise.getD s.baroNoise
  baroGate := p.baroGate.getD s.baroGate
  groundClearance := p.groundClearance.getD s.groundClearance
  flowNoise := p.flowNoise.getD s.flowNoise
  flowNoiseWorst := p.flowNoiseWorst.getD s.flowNoiseWorst
  flowMinQuality := p.flowMinQuality.getD s.flowMinQuality
  baroMaxInterval := p.baroMaxInterval.getD s.baroMaxInterval
  gpsMaxInterval := p.gpsMaxInterval.getD s.gpsMaxInterval
  rangeMaxInterval := p.rangeMaxInterval.getD s.rangeMaxInterval
  visionMaxInterval := p.visionMaxInterval.getD s.visionMaxInterval
  timeouts := p.timeouts.over s.timeouts

end Settings

/-! ## The three records -/

theorem Allowed.orderless : Orderless Allowed.fields where
  names := by decide
  commute := by
    simp only [Allowed.fields, List.pairwise_cons, List.forall_mem_cons, List.not_mem_nil,
      false_imp_iff, implies_true, List.Pairwise.nil, and_true]
    and_intros <;> exact Field.commutes_field fun _ _ _ => rfl
  optional := by decide

theorem Timeouts.orderless : Orderless Timeouts.fields where
  names := by decide
  commute := by
    simp only [Timeouts.fields, List.pairwise_cons, List.forall_mem_cons, List.not_mem_nil,
      false_imp_iff, implies_true, List.Pairwise.nil, and_true]
    and_intros <;> exact Field.commutes_field fun _ _ _ => rfl
  optional := by decide

theorem Settings.orderless : Orderless Settings.fields where
  names := by decide
  commute := by
    simp only [Settings.fields, List.pairwise_cons, List.forall_mem_cons, List.not_mem_nil,
      false_imp_iff, implies_true, List.Pairwise.nil, and_true]
    and_intros <;> exact Field.commutes_field fun _ _ _ => rfl
  optional := by decide

/-- What the members of a record overwrite is what they give. -/
theorem Allowed.overwrite_fields (ms : Members) (a : Allowed) :
    overwrite Allowed.fields ms a = (Partial.ofMembers ms).over a := by
  unfold Allowed.fields
  repeat refine (overwrite_field rfl).trans ?_
  rfl

theorem Timeouts.overwrite_fields (ms : Members) (t : Timeouts Float) :
    overwrite Timeouts.fields ms t = (Partial.ofMembers ms).over t := by
  unfold Timeouts.fields
  repeat refine (overwrite_field rfl).trans ?_
  rfl

/-- So it is of settings, but that a group is stored whole. -/
theorem Settings.overwrite_fields (ms : Members) (s : Settings Float) :
    overwrite Settings.fields ms s =
      { (Partial.ofMembers ms).over s with
        allowed := (given ms "fusion_mode" Allowed.decode).getD s.allowed
        timeouts := (given ms "timeouts" Timeouts.decode).getD s.timeouts } := by
  unfold Settings.fields
  repeat refine (overwrite_field rfl).trans ?_
  rfl

/-! ## Groups -/

section Groups

variable {σ : Type} {fields : List (Decode.Field σ)} {start : σ} {ms inner : Members}
  {name : String} {n : Node}

theorem Json.mem_of_lookup (h : ms.lookup name = some n) : (name, n) ∈ ms := by
  obtain ⟨_, _, rfl, -⟩ := List.lookup_eq_some_iff.mp h
  exact List.mem_append_right _ List.mem_cons_self

theorem Json.group_of_lookup (h : ms.lookup name = some (.object inner)) :
    group ms name = inner := by
  have all : (keyed inner).filterMap (fun k => k.1.toOption.map (·, k.2)) = inner := by
    rw [keyed, List.filterMap_map]
    exact List.filterMap_some
  unfold group
  rw [h]
  exact all

/-- A group that is given as a proper record is overwritten by what is in it. -/
theorem Json.given_group (orderless : Orderless fields) (spellable : ∀ m ∈ ms, Spellable m.2)
    (proper : ∀ n, (name, n) ∈ ms → ∃ inner, n = .object inner ∧ Proper fields inner) :
    (given ms name (record fields start)).getD start =
      overwrite fields (group ms name) start := by
  unfold given
  cases h : ms.lookup name with
  | none =>
      unfold group
      rw [h]
      exact (List.foldl_fixed' (fun _ => rfl) fields).symm
  | some n =>
      have hm := mem_of_lookup h
      obtain ⟨inner, rfl, proper⟩ := proper n hm
      have passes : ∀ m ∈ inner, m.2.passes = .ok () := fun m hm' =>
        ((spellable _ hm).of_object m hm').passes
      rw [group_of_lookup h]
      show (record fields start (.object inner)).toOption.getD start = _
      rw [(record_object orderless passes start).1 proper]
      rfl

/-- A field that is a record of its own can be read exactly if the record is proper. -/
theorem Json.readable_group {τ : Type} {p : Presence} {set : σ → τ → τ}
    (orderless : Orderless fields) (spellable : Spellable (.object inner)) :
    (∃ store, (Decode.Field.field name p (record fields start) set).read (.object inner) =
      .ok store) ↔ Proper fields inner := by
  have passes : ∀ m ∈ inner, m.2.passes = .ok () := fun m hm => (spellable.of_object m hm).passes
  obtain ⟨decoded, refused⟩ := record_object orderless passes start
  constructor
  · rintro ⟨store, read⟩
    obtain ⟨x, found, -⟩ := Field.read_eq_ok read
    by_contra improper
    obtain ⟨fault, none⟩ := refused improper
    cases none.symm.trans found
  · intro proper
    exact ⟨_, congrArg (Except.map set) (decoded proper)⟩

end Groups

namespace Settings

/-- The field of the allowed sources. -/
def allowedField : Decode.Field (Settings Float) :=
  .field "fusion_mode" .defaulted Allowed.decode fun a s => { s with allowed := a }

/-- The field of the timeouts. -/
def timeoutsField : Decode.Field (Settings Float) :=
  .field "timeouts" .defaulted Timeouts.decode fun t s => { s with timeouts := t }

theorem allowedField_mem : allowedField ∈ fields := List.mem_cons_self

theorem timeoutsField_mem : timeoutsField ∈ fields := List.mem_of_getLast? rfl

/-- Every known field occurs at most once, in the document and in both groups, and has a value of
its type. -/
structure WellFormed (ms : Members) : Prop where
  once : ∀ f ∈ fields, (ms.map Prod.fst).count f.name ≤ 1
  typed : ∀ f ∈ fields, f.name ≠ "fusion_mode" → f.name ≠ "timeouts" → ∀ n, (f.name, n) ∈ ms →
    ∃ set, f.read n = .ok set
  allowed : ∀ n, ("fusion_mode", n) ∈ ms → ∃ inner, n = .object inner ∧ Proper Allowed.fields inner
  timeouts : ∀ n, ("timeouts", n) ∈ ms → ∃ inner, n = .object inner ∧ Proper Timeouts.fields inner

/-- Some known field comes again, in the document or in one of its groups. -/
def Repeated (ms : Members) : Prop :=
  Repeats fields ms ∨
    (∃ inner, ("fusion_mode", .object inner) ∈ ms ∧ Repeats Allowed.fields inner) ∨
    ∃ inner, ("timeouts", .object inner) ∈ ms ∧ Repeats Timeouts.fields inner

variable {ms : Members}

theorem Repeated.improper (spellable : ∀ m ∈ ms, Spellable m.2) (h : Repeated ms) :
    ¬ Proper fields ms := by
  intro proper
  rcases h with top | ⟨inner, member, again⟩ | ⟨inner, member, again⟩
  · exact top.improper proper
  · have read := proper.readable allowedField allowedField_mem _ member
    exact again.improper ((readable_group Allowed.orderless (spellable _ member)).mp read)
  · have read := proper.readable timeoutsField timeoutsField_mem _ member
    exact again.improper ((readable_group Timeouts.orderless (spellable _ member)).mp read)

theorem WellFormed.proper (spellable : ∀ m ∈ ms, Spellable m.2) (h : WellFormed ms) :
    Proper fields ms := by
  have only {f g : Decode.Field (Settings Float)} (hf : f ∈ fields) (hg : g ∈ fields)
      (same : f.name = g.name) : f = g := List.inj_on_of_nodup_map orderless.names hf hg same
  refine ⟨h.once, fun f hf n hn => ?_⟩
  by_cases allowed : f.name = "fusion_mode"
  · obtain rfl := only hf allowedField_mem allowed
    obtain ⟨inner, rfl, proper⟩ := h.allowed n hn
    exact (readable_group Allowed.orderless (spellable _ hn)).mpr proper
  · by_cases timeouts : f.name = "timeouts"
    · obtain rfl := only hf timeoutsField_mem timeouts
      obtain ⟨inner, rfl, proper⟩ := h.timeouts n hn
      exact (readable_group Timeouts.orderless (spellable _ hn)).mpr proper
    · exact h.typed f hf allowed timeouts n hn

/-- Well-formed members are decoded to the default settings overwritten by what they give. -/
theorem WellFormed.decode (spellable : ∀ m ∈ ms, Spellable m.2) (h : WellFormed ms) :
    Settings.decode (.object ms) = .ok ((Partial.ofMembers ms).over .default) := by
  have passes : ∀ m ∈ ms, m.2.passes = .ok () := fun m hm => (spellable m hm).passes
  have allowed : (given ms "fusion_mode" Allowed.decode).getD {} = _ :=
    given_group Allowed.orderless spellable h.allowed
  have timeouts : (given ms "timeouts" Timeouts.decode).getD .default = _ :=
    given_group Timeouts.orderless spellable h.timeouts
  have decoded := (record_object orderless passes default).1 (h.proper spellable)
  rw [overwrite_fields, show (default : Settings Float).allowed = {} from rfl, allowed,
    show (default : Settings Float).timeouts = .default from rfl, timeouts,
    Allowed.overwrite_fields, Timeouts.overwrite_fields] at decoded
  exact decoded

/-! ## Documents -/

/-- What is read for settings that a document gives. -/
def outcome (s : Settings Float) : Except SettingsFailure (Settings Float) :=
  (s.check.mapError .outOfRange).map fun _ => s

theorem decode_document {text : Octets} {n : Node} (spelled : Spelled text n) :
    (Document.read text).decode decode = decode n := by
  rw [read_spelled spelled]
  cases h : Settings.decode n with
  | _ => simp [Document.decode, h, bind, Except.bind, pure, Except.pure]

theorem read_of_decoded {text : Octets} {n : Node} {s : Settings Float} (spelled : Spelled text n)
    (decoded : decode n = .ok s) : Settings.read text = s.outcome := by
  unfold Settings.read outcome
  rw [decode_document spelled, decoded]
  cases h : s.check with
  | _ => simp only [h, Except.mapError, Except.map]

theorem read_of_refused {text : Octets} {n : Node} {fault : Fault} (spelled : Spelled text n)
    (refused : decode n = .error fault) : Settings.read text = .error (.fault fault) := by
  simp only [Settings.read, decode_document spelled, refused]

theorem outcome_of_inRange {s : Settings Float} (inRange : s.InRange) : s.outcome = .ok s := by
  rw [outcome, check_eq_ok_iff.mpr inRange]
  rfl

theorem outcome_of_not_inRange {s : Settings Float} (broken : ¬ s.InRange) :
    ∃ l, FirstBroken limits s l ∧ s.outcome = .error (.outOfRange (l.error s)) := by
  obtain ⟨l, first, refused⟩ := check_of_not_inRange broken
  refine ⟨l, first, ?_⟩
  rw [outcome, refused]
  rfl

/-- The settings of a file are those of its content. -/
theorem load_of_read {m : Type → Type} [Monad m] [LawfulMonad m] {files : Files m} {path : String}
    {bytes : Array UInt8} (content : files.read path = pure (.ok bytes)) :
    Settings.load files path =
      pure ((Settings.read (.ofBytes bytes.toList)).mapError .settings) := by
  rw [Settings.load, content, pure_bind]

end Settings

/-- Only settings in range make an arbiter, and no call changes them. -/
theorem Arbiter.inRange_after {α C : Type} [Scalar α] [Estimator α C] {s : Settings α}
    {a : Arbiter α} (made : Arbiter.new s = .ok a) (calls : List (Call α C)) :
    (a.after calls).settings.InRange := by
  have passed : s.check = .ok () := by
    unfold Arbiter.new at made
    cases h : s.check with
    | error e => simp [h, bind, Except.bind] at made
    | ok _ => rfl
  rw [settings_after, eq_ofSettings_of_new made]
  exact Settings.check_eq_ok_iff.mp passed

/-- Every document that is a record, with blanks anywhere and any unknown members.  If every known
field occurs at most once and is well typed, the settings are the default ones overwritten by what
is given: they are read exactly if they are in range, and else the error is that of the first limit
that they break and names its setting.  Another such document that gives the same has the same
outcome.  A document that repeats a known field, its own or one of a group, is at fault.  A file is
read as its content.  And every arbiter that can be made has settings in range, after any calls. -/
theorem partial_settings {text : Octets} {ms : Members} (spelled : Spelled text (.object ms)) :
    let s := (Settings.Partial.ofMembers ms).over .default
    (Settings.WellFormed ms →
      (s.InRange → Settings.read text = .ok s) ∧
      (¬ s.InRange → ∃ l, Settings.FirstBroken Settings.limits s l ∧
        Settings.read text = .error (.outOfRange (l.error s)) ∧ (l.error s).setting = l.name) ∧
      ∀ text' ms', Spelled text' (.object ms') → Settings.WellFormed ms' →
        Settings.Partial.ofMembers ms' = Settings.Partial.ofMembers ms →
        Settings.read text' = Settings.read text) ∧
    (Settings.Repeated ms → ∃ fault, Settings.read text = .error (.fault fault)) ∧
    (∀ (m : Type → Type) [Monad m] [LawfulMonad m] (files : Files m) (path : String)
      (bytes : Array UInt8), files.read path = pure (.ok bytes) →
      Octets.ofBytes bytes.toList = text →
      Settings.load files path = pure ((Settings.read text).mapError .settings)) ∧
    ∀ (settings : Settings Float) (a : Arbiter Float), Arbiter.new settings = .ok a →
      ∀ calls : List (Call Float (GatedFilter Float)), (a.after calls).settings.InRange := by
  intro s
  have spellable : ∀ m ∈ ms, Spellable m.2 := spelled.spellable.of_object
  have passes : ∀ m ∈ ms, m.2.passes = .ok () := fun m hm => (spellable m hm).passes
  refine ⟨fun formed => ?_, fun repeated => ?_, ?_, fun _ _ made => Arbiter.inRange_after made⟩
  · have read : Settings.read text = s.outcome :=
      Settings.read_of_decoded spelled (formed.decode spellable)
    refine ⟨fun inRange => ?_, fun broken => ?_, fun text' ms' spelled' formed' same => ?_⟩
    · rw [read, Settings.outcome_of_inRange inRange]
    · obtain ⟨l, first, outcome⟩ := Settings.outcome_of_not_inRange broken
      exact ⟨l, first, read.trans outcome, l.named s⟩
    · have decoded := formed'.decode spelled'.spellable.of_object
      rw [read, Settings.read_of_decoded spelled' decoded, same]
  · have refused := (record_object Settings.orderless passes .default).2
    obtain ⟨fault, refused⟩ := refused (repeated.improper spellable)
    exact ⟨fault, Settings.read_of_refused spelled refused⟩
  · rintro m _ _ files path bytes content rfl
    exact Settings.load_of_read content

/-- An unknown member stands first and a group between two settings of its surroundings. -/
theorem partial_settings_shuffled :
    let text : Octets := ("\x7b\"note\": [null], \"req_vacc\": 3, " ++
      "\"timeouts\": \x7b\"airspeed_timeout_us\": 70\x7d, \"baro_noise\": 1\x7d").toList
    let whole (n : Nat) : Node := .number ⟨.ok (.natural n), .ok ()⟩
    let ms : Members := [("note", .items [.literal (.ok .null)]), ("req_vacc", whole 3),
      ("timeouts", .object [("airspeed_timeout_us", whole 70)]), ("baro_noise", whole 1)]
    let s : Settings Float := { Settings.default with
      requiredVerticalAccuracy := Number.toFloat (.natural 3)
      baroNoise := Number.toFloat (.natural 1)
      timeouts := { Timeouts.default with airspeedTimeout := 70 } }
    Spelled text (.object ms) ∧ Settings.WellFormed ms ∧ s.InRange ∧
      Settings.read text = .ok s := by
  intro text whole ms s
  have space : Blank [' '] := by decide
  have member (name : String) {os : Octets} {v : Node} (plain : Text.Plain name.toList)
      (reads : Text.read (Text.closed name.toList) = .ok name) (value : Spells (.value v) os) :
      Spells (.member (.ok name, v))
        ('"' :: (Text.closed name.toList ++ ([] ++ ':' :: ([' '] ++ (os ++ []))))) := by
    rw [← reads]
    exact .member plain.shaped blank_nil space (.item value blank_nil)
  have number (ds : List Char) (digits : Numeral.Whole ds) :
      Spells (.value (.number ⟨Numeral.eval ⟨false, ds, none, none⟩, .ok ()⟩))
        ([] ++ (ds ++ ([] ++ []))) :=
    .number ⟨digits, [], [], .absent, .absent, rfl⟩
  have note : Spells (.value (.items [.literal (.ok .null)])) _ :=
    .list blank_nil (.oneItem (.item (.literal .null) blank_nil))
  have accuracy : Spells (.value (whole 3)) _ := number ['3'] (by decide)
  have timeout : Spells (.value (whole 70)) _ := number ['7', '0'] (by decide)
  have noise : Spells (.value (whole 1)) _ := number ['1'] (by decide)
  have timeouts : Spells (.value (.object [("airspeed_timeout_us", whole 70)])) _ :=
    .record blank_nil (.oneMember (member "airspeed_timeout_us" (by decide) rfl timeout))
  have record : Spells (.value (.object ms)) _ :=
    .record blank_nil <| .moreMembers (member "note" (by decide) rfl note) space <|
      .moreMembers (member "req_vacc" (by decide) rfl accuracy) space <|
      .moreMembers (member "timeouts" (by decide) rfl timeouts) space <|
      .oneMember (member "baro_noise" (by decide) rfl noise)
  have spelled : Spelled text (.object ms) :=
    ⟨[], _, blank_nil, .item record blank_nil, by decide +kernel⟩
  have group : Proper Timeouts.fields [("airspeed_timeout_us", whole 70)] := by
    have typed : ∀ f ∈ Timeouts.fields, ∀ m ∈ [("airspeed_timeout_us", whole 70)], m.1 = f.name →
        (f.read m.2).isOk = true := by decide
    exact ⟨fun f _ => List.nodup_iff_count_le_one.mp (List.nodup_singleton _) f.name,
      fun f hf n hn => Field.exists_of_isOk (typed f hf _ hn rfl)⟩
  have once : (ms.map Prod.fst).Nodup := by decide
  have typed : ∀ f ∈ Settings.fields, ∀ m ∈ ms, m.1 = f.name → f.name ≠ "timeouts" →
      (f.read m.2).isOk = true := by decide
  have formed : Settings.WellFormed ms :=
    { once := fun f _ => List.nodup_iff_count_le_one.mp once f.name
      typed := fun f hf _ other n hn => Field.exists_of_isOk (typed f hf _ hn rfl other)
      allowed := fun n hn => by simp [ms] at hn
      timeouts := fun n hn => ⟨_, by simpa [ms] using hn, group⟩ }
  have default : (Settings.default : Settings Float).InRange := Settings.check_eq_ok_iff.mp rfl
  have inRange : s.InRange :=
    { default with
      requiredVerticalAccuracy := ⟨by decide +kernel, by decide +kernel⟩
      baroNoise := ⟨by decide +kernel, by decide +kernel⟩ }
  exact ⟨spelled, formed, inRange, ((partial_settings spelled).1 formed).1 inRange⟩

end NavArbiter

/-
# What a fusion reads

A fusion reads the samples of those sensors that the status admits.  Two sensors serve two channels
each, and the height channel reads whichever sensor is selected:

    sensor          admitted by
    gps             satellite navigation in use, or gps selected for height
    vision          vision position in use, or vision selected for height
    barometer       baro selected for height
    range           every status, for the terrain
    flow            flow in use
    magnetometer    a magnetometer mode in force
    airspeed        being in the air

What the other sensors have delivered makes no difference: not to the core, with what it has taken
so far, and not to the health record (`fuseActive_noninterference`).
-/
import NavArbiter.Proofs.Flight

namespace NavArbiter

/-- The sensors whose samples a fusion may read. -/
def Status.admits (t : Status) : Sensor → Bool
  | .gps => t.gps || t.height == .gps
  | .vision => t.visionPosition || t.height == .vision
  | .baro => t.height == .baro
  | .range => true
  | .flow => t.flow
  | .mag => t.magHeading || t.magThreeAxis
  | .airspeed => t.inAir

variable {α : Type}

/-- The admitted sensors have delivered the same samples. -/
structure Histories.AgreeOn (admitted : Sensor → Bool) (h h' : Histories α) : Prop where
  gps : admitted .gps = true → h.gps.samples = h'.gps.samples
  vision : admitted .vision = true → h.vision.samples = h'.vision.samples
  baro : admitted .baro = true → h.baro.samples = h'.baro.samples
  range : admitted .range = true → h.range.samples = h'.range.samples
  flow : admitted .flow = true → h.flow.samples = h'.flow.samples
  mag : admitted .mag = true → h.mag.samples = h'.mag.samples
  airspeed : admitted .airspeed = true → h.airspeed.samples = h'.airspeed.samples

/-! ## Histories with the same samples -/

section Samples

variable {β : Type} [Timed β] {b b' : History β}

theorem History.near?_congr (hs : b.samples = b'.samples) (horizon : Time) :
    b.near? horizon = b'.near? horizon := by
  rw [near?, near?, hs]

theorem History.unseen?_congr (hs : b.samples = b'.samples) (horizon : Time)
    (last : Option Time) : b.unseen? horizon last = b'.unseen? horizon last := by
  rw [unseen?, unseen?, near?_congr hs]

end Samples

variable [Scalar α]

/-- The height channel reads the selected source only. -/
theorem GatedFilter.heightMeasurement_congr {t : Status} {h h' : Histories α}
    (agree : h.AgreeOn t.admits h') (f : GatedFilter α) (horizon : Time) :
    f.heightMeasurement t.height h (some horizon) =
      f.heightMeasurement t.height h' (some horizon) := by
  have selected : ∀ source, t.height = source → t.admits source.sensor = true := by
    rintro source rfl
    cases hs : t.height <;> simp [HeightSource.sensor, Status.admits, hs]
  cases hs : t.height with
  | baro =>
      exact congrArg (Option.map _) (History.near?_congr (agree.baro (selected _ hs)) horizon)
  | gps =>
      exact congrArg (Option.map _) (History.near?_congr (agree.gps (selected _ hs)) horizon)
  | range =>
      exact congrArg (Option.map _) (History.near?_congr (agree.range (selected _ hs)) horizon)
  | vision =>
      exact congrArg (Option.map _) (History.near?_congr (agree.vision (selected _ hs)) horizon)

/-! ## The channels -/

namespace Fused

variable {t : Status} {h h' : Histories α} (horizon now : Time) (s : Fused α)

theorem takeGps_congr (agree : h.AgreeOn t.admits h') :
    s.takeGps ⟨t, h, horizon, now⟩ = s.takeGps ⟨t, h', horizon, now⟩ := by
  unfold takeGps
  dsimp only
  cases ht : t.gps with
  | false => rfl
  | true =>
      have admitted : t.admits .gps = true := by simp [Status.admits, ht]
      rw [History.unseen?_congr (agree.gps admitted)]

theorem takeVision_congr (agree : h.AgreeOn t.admits h') :
    s.takeVision ⟨t, h, horizon, now⟩ = s.takeVision ⟨t, h', horizon, now⟩ := by
  unfold takeVision
  dsimp only
  cases ht : t.visionPosition with
  | false => rfl
  | true =>
      have admitted : t.admits .vision = true := by simp [Status.admits, ht]
      rw [History.unseen?_congr (agree.vision admitted)]

theorem takeRange_congr (agree : h.AgreeOn t.admits h') :
    s.takeRange ⟨t, h, horizon, now⟩ = s.takeRange ⟨t, h', horizon, now⟩ := by
  unfold takeRange
  dsimp only
  rw [History.unseen?_congr (agree.range rfl)]

theorem takeFlow_congr (agree : h.AgreeOn t.admits h') :
    s.takeFlow ⟨t, h, horizon, now⟩ = s.takeFlow ⟨t, h', horizon, now⟩ := by
  unfold takeFlow
  dsimp only
  cases ht : t.flow with
  | false => rfl
  | true => rw [History.unseen?_congr (agree.flow ht)]

theorem takeHeight_congr (agree : h.AgreeOn t.admits h') :
    s.takeHeight ⟨t, h, horizon, now⟩ = s.takeHeight ⟨t, h', horizon, now⟩ := by
  unfold takeHeight
  dsimp only
  rw [GatedFilter.heightMeasurement_congr agree]

omit [Scalar α] in
theorem takeMag_congr (agree : h.AgreeOn t.admits h') :
    s.takeMag ⟨t, h, horizon, now⟩ = s.takeMag ⟨t, h', horizon, now⟩ := by
  unfold takeMag
  dsimp only
  cases ht : t.magHeading || t.magThreeAxis with
  | false => rfl
  | true => rw [History.unseen?_congr (agree.mag ht)]

theorem takeAirspeed_congr (agree : h.AgreeOn t.admits h') :
    s.takeAirspeed ⟨t, h, horizon, now⟩ = s.takeAirspeed ⟨t, h', horizon, now⟩ := by
  unfold takeAirspeed
  dsimp only
  cases ht : t.inAir with
  | false => rfl
  | true => rw [History.unseen?_congr (agree.airspeed ht)]

end Fused

/-! ## The fusion -/

/-- Two fusions of one core under one status, at the same horizon and time, leave the same core and
the same health record if the sensors that the status admits have delivered the same samples. -/
theorem GatedFilter.fuseActive_noninterference (f : GatedFilter α) (health : Health) (t : Status)
    (horizon now : Time) {h h' : Histories α} (agree : h.AgreeOn t.admits h') :
    f.fuseActive health ⟨t, h, horizon, now⟩ = f.fuseActive health ⟨t, h', horizon, now⟩ := by
  unfold fuseActive
  rw [Fused.takeGps_congr horizon now _ agree, Fused.takeVision_congr horizon now _ agree,
    Fused.takeRange_congr horizon now _ agree, Fused.takeFlow_congr horizon now _ agree,
    Fused.takeHeight_congr horizon now _ agree, Fused.takeMag_congr horizon now _ agree,
    Fused.takeAirspeed_congr horizon now _ agree]

/-- With the barometer selected and nothing else in use, fixes and poses at the horizon do not show
in the fusion, and the barometric height does. -/
theorem fuseActive_noninterference_baro :
    let baro : Histories Float := { noSamples with baro := historyOf [⟨890000, 12.0⟩] }
    let crowded : Histories Float :=
      { baro with
        gps := fixesAt [850000, 880000]
        vision := historyOf [⟨880000, .zero, .identity, 0.1, 0.1⟩] }
    let f : GatedFilter Float := .levelled
    crowded.AgreeOn Status.initial.admits baro ∧
      (crowded.gps.near? 900000).isSome = true ∧ (baro.gps.near? 900000).isSome = false ∧
      f.fuseActive .initial ⟨.initial, crowded, 900000, 1000000⟩ =
        f.fuseActive .initial ⟨.initial, baro, 900000, 1000000⟩ ∧
      (f.fuseActive .initial ⟨.initial, baro, 900000, 1000000⟩).health.lastHeight =
        some 1000000 := by
  intro baro crowded f
  have agree : crowded.AgreeOn Status.initial.admits baro :=
    ⟨nofun, nofun, fun _ => rfl, fun _ => rfl, nofun, nofun, nofun⟩
  exact ⟨agree, by decide +kernel, by decide +kernel,
    f.fuseActive_noninterference .initial .initial 900000 1000000 agree, by decide +kernel⟩

end NavArbiter

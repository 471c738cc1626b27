/-
# Settings in range

A check goes through twelve settings in a fixed order and stops at the first that is out of range.
It succeeds exactly if none is (`check_eq_ok_iff`); the other settings may be anything at all, among
them the least quality of flow and every timeout.  Otherwise its error is that of the first limit in
`Settings.limits` that is broken (`check_of_not_inRange`), and names the setting of that limit
whatever the settings are (`Limit.named`).
-/
import NavArbiter.Settings

namespace NavArbiter

variable {α : Type} [Scalar α]

/-- A finite number above zero. -/
def Scalar.Positive (v : α) : Prop := Scalar.isFinite v = true ∧ 0.0 < v

/-- A finite number that is not below zero. -/
def Scalar.NonNegative (v : α) : Prop := Scalar.isFinite v = true ∧ 0.0 ≤ v

namespace Settings

/-- Every setting that is checked is in range. -/
structure InRange (s : Settings α) : Prop where
  heightResetLimit : Scalar.Positive s.heightResetLimit
  requiredVerticalAccuracy : Scalar.Positive s.requiredVerticalAccuracy
  baroNoise : Scalar.Positive s.baroNoise
  baroGate : Scalar.Positive s.baroGate
  flowNoise : Scalar.Positive s.flowNoise
  flowNoiseWorst : Scalar.Positive s.flowNoiseWorst
  tiltAlignVariance : Scalar.Positive s.timeouts.tiltAlignVariance
  groundClearance : Scalar.NonNegative s.groundClearance
  baroMaxInterval : 0 < s.baroMaxInterval
  gpsMaxInterval : 0 < s.gpsMaxInterval
  rangeMaxInterval : 0 < s.rangeMaxInterval
  visionMaxInterval : 0 < s.visionMaxInterval

theorem requirePositive_eq_ok_iff {name : String} {v : α} :
    requirePositive name v = .ok () ↔ Scalar.Positive v := by
  unfold requirePositive Scalar.Positive
  split <;> simp_all

theorem requireNonNegative_eq_ok_iff {name : String} {v : α} :
    requireNonNegative name v = .ok () ↔ Scalar.NonNegative v := by
  unfold requireNonNegative Scalar.NonNegative
  split <;> simp_all

omit [Scalar α] in
theorem requireNonZero_eq_ok_iff {name : String} {v : Nat} :
    (requireNonZero name v : Except (SettingError α) Unit) = .ok () ↔ 0 < v := by
  unfold requireNonZero
  split <;> simp_all

/-- A check after another one. -/
theorem bind_eq_ok_iff {ε : Type} {first rest : Except ε Unit} :
    (first >>= fun _ => rest) = .ok () ↔ first = .ok () ∧ rest = .ok () := by
  cases first with
  | error e => exact iff_of_false nofun fun h => nomatch h.1
  | ok _ => exact (and_iff_right rfl).symm

theorem check_eq_ok_iff {s : Settings α} : s.check = .ok () ↔ s.InRange := by
  unfold check
  simp only [bind_eq_ok_iff, requirePositive_eq_ok_iff, requireNonNegative_eq_ok_iff,
    requireNonZero_eq_ok_iff]
  constructor
  · rintro ⟨limit, accuracy, baro, gate, flow, worst, tilt, clearance, b, g, r, v⟩
    exact ⟨limit, accuracy, baro, gate, flow, worst, tilt, clearance, b, g, r, v⟩
  · rintro ⟨limit, accuracy, baro, gate, flow, worst, tilt, clearance, b, g, r, v⟩
    exact ⟨limit, accuracy, baro, gate, flow, worst, tilt, clearance, b, g, r, v⟩

end Settings

/-! ## The first limit that is broken -/

/-- The setting that an error names. -/
def SettingError.setting {α : Type} : SettingError α → String
  | .notPositive name _ => name
  | .negative name _ => name
  | .zero name => name

/-- A limit of one setting, with the error for settings that break it. -/
structure Limit (α : Type) where
  name : String
  Holds : Settings α → Prop
  error : Settings α → SettingError α
  named : ∀ s, (error s).setting = name

namespace Limit

def positive (name : String) (of : Settings α → α) : Limit α :=
  ⟨name, fun s => Scalar.Positive (of s), fun s => .notPositive name (of s), fun _ => rfl⟩

def nonNegative (name : String) (of : Settings α → α) : Limit α :=
  ⟨name, fun s => Scalar.NonNegative (of s), fun s => .negative name (of s), fun _ => rfl⟩

def nonZero {α : Type} (name : String) (of : Settings α → Nat) : Limit α :=
  ⟨name, fun s => 0 < of s, fun _ => .zero name, fun _ => rfl⟩

end Limit

namespace Settings

/-- The limits in the order in which they are checked. -/
def limits : List (Limit α) :=
  [.positive "hgt_reset_lim" heightResetLimit,
   .positive "req_vacc" requiredVerticalAccuracy,
   .positive "baro_noise" baroNoise,
   .positive "baro_innov_gate" baroGate,
   .positive "flow_noise" flowNoise,
   .positive "flow_noise_qual_min" flowNoiseWorst,
   .positive "timeouts.tilt_align_var" fun s => s.timeouts.tiltAlignVariance,
   .nonNegative "rng_gnd_clearance" groundClearance,
   .nonZero "baro_max_interval_us" baroMaxInterval,
   .nonZero "gps_max_interval_us" gpsMaxInterval,
   .nonZero "rng_max_interval_us" rangeMaxInterval,
   .nonZero "ev_max_interval_us" visionMaxInterval]

/-- The first of the limits that the settings break. -/
def FirstBroken {α : Type} (ls : List (Limit α)) (s : Settings α) (l : Limit α) : Prop :=
  ∃ before after, ls = before ++ l :: after ∧ (∀ k ∈ before, k.Holds s) ∧ ¬ l.Holds s

/-- This comes of checking the limits one after another. -/
def Judges {α : Type} (ls : List (Limit α)) (s : Settings α)
    (outcome : Except (SettingError α) Unit) : Prop :=
  (outcome = .ok () ∧ ∀ l ∈ ls, l.Holds s) ∨
    ∃ l, FirstBroken ls s l ∧ outcome = .error (l.error s)

section Judges

variable {s : Settings α} {l : Limit α} {ls : List (Limit α)} {holds : Prop} [Decidable holds]

omit [Scalar α] in
/-- A check before others. -/
theorem judges_cons {rest : Except (SettingError α) Unit} (same : holds ↔ l.Holds s)
    (others : Judges ls s rest) :
    Judges (l :: ls) s ((if holds then .ok () else .error (l.error s)) >>= fun _ => rest) := by
  by_cases h : holds
  · rw [if_pos h]
    have own : l.Holds s := same.mp h
    rcases others with ⟨rfl, all⟩ | ⟨k, ⟨before, after, rfl, earlier, broken⟩, rfl⟩
    · exact Or.inl ⟨rfl, List.forall_mem_cons.mpr ⟨own, all⟩⟩
    · have earlier : ∀ k ∈ l :: before, k.Holds s := List.forall_mem_cons.mpr ⟨own, earlier⟩
      exact Or.inr ⟨k, ⟨l :: before, after, rfl, earlier, broken⟩, rfl⟩
  · rw [if_neg h]
    exact Or.inr ⟨l, ⟨[], ls, rfl, nofun, mt same.mpr h⟩, rfl⟩

omit [Scalar α] in
theorem judges_last (same : holds ↔ l.Holds s) :
    Judges [l] s (if holds then .ok () else .error (l.error s)) := by
  have none : Judges [] s (.ok ()) := Or.inl ⟨rfl, nofun⟩
  have outcome := judges_cons same none
  by_cases h : holds
  · rwa [if_pos h] at outcome ⊢
  · rwa [if_neg h] at outcome ⊢

end Judges

theorem judges_check (s : Settings α) : Judges limits s s.check :=
  judges_cons Iff.rfl <| judges_cons Iff.rfl <| judges_cons Iff.rfl <| judges_cons Iff.rfl <|
    judges_cons Iff.rfl <| judges_cons Iff.rfl <| judges_cons Iff.rfl <| judges_cons Iff.rfl <|
    judges_cons Iff.rfl <| judges_cons Iff.rfl <| judges_cons Iff.rfl <| judges_last Iff.rfl

/-- Settings out of range break a limit, and the check tells which is the first. -/
theorem check_of_not_inRange {s : Settings α} (broken : ¬ s.InRange) :
    ∃ l, FirstBroken limits s l ∧ s.check = .error (l.error s) := by
  rcases judges_check s with ⟨passed, -⟩ | first
  · exact absurd (check_eq_ok_iff.mp passed) broken
  · exact first

end Settings

end NavArbiter

/-
# What excludes what in the status

Height source and yaw observer are one value each, so of the four height bits of the word exactly
one is set, and of the three bits that tell who observes yaw at most one.

Declination fusion is a flag beside the observer, and not every call that writes the observer looks
at it:

    call                              observer     declination fusion
    vision takes yaw over             vision       off
    declination fusion is decided     as it was    as wanted on three axes, and else off
    a mode is selected                the mode     as it was
    the same under vision yaw         vision       off, as it was

By the third line it can be left behind: a mode that is selected while declination is fused on three
axes ends the one and not the other.  That is the only way, and it lasts until declination is
decided again, vision takes yaw over or three axes are selected (`strays_after_iff`).
-/
import Mathlib.Data.List.Induction
import Mathlib.Logic.ExistsUnique
import NavArbiter.Status.Word

namespace NavArbiter

/-! ## Bits -/

namespace Flag

theorem getElem?_all (f : Flag) : all[f.position]? = some f := by
  cases f <;> rfl

theorem mem_all (f : Flag) : f ∈ all := List.mem_of_getElem? f.getElem?_all

/-- No two flags share a bit. -/
theorem position_injective {f g : Flag} (h : f.position = g.position) : f = g := by
  have same := f.getElem?_all
  rw [h, g.getElem?_all] at same
  exact (Option.some.inj same).symm

/-- The flags of which each stands for a height source. -/
def heights : List Flag := [baroHeight, rangeHeight, gpsHeight, visionHeight]

/-- The flags of which each stands for an observer of yaw. -/
def observers : List Flag := [magHeading, magThreeAxis, visionYaw]

end Flag

namespace Status

theorem testBit_foldl (s : Status) (fs : List Flag) (w n : Nat) :
    (fs.foldl (fun w f => if f.isSet s then w ||| 1 <<< f.position else w) w).testBit n =
      (w.testBit n || fs.any fun f => f.isSet s && f.position == n) := by
  induction fs generalizing w with
  | nil => simp
  | cons f fs ih =>
      rw [List.foldl_cons, ih, List.any_cons]
      cases f.isSet s with
      | false => simp
      | true =>
          have bit : (1 <<< f.position).testBit n = (f.position == n) := by
            rw [Nat.one_shiftLeft, Nat.testBit_two_pow]
            rfl
          simp [bit, Bool.or_assoc]

/-- Each bit of the word shows its flag. -/
theorem testBit_word (s : Status) (f : Flag) : s.word.testBit f.position = f.isSet s := by
  rw [word, testBit_foldl, Nat.zero_testBit, Bool.false_or, Bool.eq_iff_iff, List.any_eq_true]
  constructor
  · rintro ⟨g, -, h⟩
    obtain ⟨set, same⟩ := Bool.and_eq_true_iff.mp h
    rw [← Flag.position_injective (eq_of_beq same)]
    exact set
  · intro set
    exact ⟨f, f.mem_all, by simp [set]⟩

end Status

/-- The flag of a height source. -/
def HeightSource.flag : HeightSource → Flag
  | baro => .baroHeight
  | gps => .gpsHeight
  | range => .rangeHeight
  | vision => .visionHeight

/-- The flag of an observer of yaw, unless there is none. -/
def YawSource.flag? : YawSource → Option Flag
  | magnetometer .off => none
  | magnetometer .heading => some .magHeading
  | magnetometer .threeAxis => some .magThreeAxis
  | vision => some .visionYaw

theorem isSet_height_iff {s : Status} {f : Flag} (h : f ∈ Flag.heights) :
    f.isSet s = true ↔ f = s.height.flag := by
  simp only [Flag.heights, List.mem_cons, List.not_mem_nil, or_false] at h
  rcases h with rfl | rfl | rfl | rfl <;>
    cases height : s.height <;> simp [Flag.isSet, HeightSource.flag, height]

theorem HeightSource.flag_mem (source : HeightSource) : source.flag ∈ Flag.heights := by
  cases source <;> decide

theorem isSet_observer_iff {s : Status} {f : Flag} (h : f ∈ Flag.observers) :
    f.isSet s = true ↔ s.yaw.flag? = some f := by
  simp only [Flag.observers, List.mem_cons, List.not_mem_nil, or_false] at h
  rcases h with rfl | rfl | rfl <;> rcases yaw : s.yaw with (_ | _ | _) | _ <;>
    simp [Flag.isSet, YawSource.flag?, Status.magHeading, Status.magThreeAxis, Status.visionYaw,
      Status.magMode, yaw]

/-! ## Calls -/

/-- A field of the status that anyone may write, with what is written. -/
inductive OpenField where
  | tiltAligned (b : Bool)
  | yawAligned (b : Bool)
  | gps (b : Bool)
  | flow (b : Bool)
  | visionPosition (b : Bool)
  | inAir (b : Bool)
  | windValid (b : Bool)
  | height (source : HeightSource)

/-- A call on a status. -/
inductive StatusCall where
  | selectMagMode (mode : MagMode)
  | decideDeclination (fuse : Bool)
  | claimVisionYaw
  | write (field : OpenField)

namespace Status

/-- The status with an open field written. -/
def write (s : Status) : OpenField → Status
  | .tiltAligned b => { s with tiltAligned := b }
  | .yawAligned b => { s with yawAligned := b }
  | .gps b => { s with gps := b }
  | .flow b => { s with flow := b }
  | .visionPosition b => { s with visionPosition := b }
  | .inAir b => { s with inAir := b }
  | .windValid b => { s with windValid := b }
  | .height source => { s with height := source }

/-- The status after a call. -/
def call (s : Status) : StatusCall → Status
  | .selectMagMode mode => s.setMagMode mode
  | .decideDeclination fuse => s.setDeclination fuse
  | .claimVisionYaw => s.claimVisionYaw
  | .write field => s.write field

/-- The status after calls, in their order. -/
def after (s : Status) (calls : List StatusCall) : Status := calls.foldl call s

theorem after_concat (s : Status) (calls : List StatusCall) (k : StatusCall) :
    s.after (calls ++ [k]) = (s.after calls).call k := by
  rw [after, List.foldl_append]
  rfl

/-- Declination is fused, and not on three axes. -/
def Strays (s : Status) : Prop := s.declination = true ∧ s.magThreeAxis = false

end Status

/-- The call ends any stray fusion of declination. -/
def StatusCall.settles : StatusCall → Bool
  | selectMagMode mode => mode == .threeAxis
  | decideDeclination _ => true
  | claimVisionYaw => true
  | write _ => false

/-- The call selects another mode than three axes. -/
def StatusCall.Leaves (k : StatusCall) : Prop := ∃ mode, mode ≠ .threeAxis ∧ k = selectMagMode mode

/-- Three-axis fusion was left while declination was fused, and no call since has settled that. -/
def Status.LeftBehind (s : Status) (calls : List StatusCall) : Prop :=
  ∃ earlier k later, calls = earlier ++ k :: later ∧ k.Leaves ∧
    (s.after earlier).declination = true ∧ (s.after earlier).magThreeAxis = true ∧
    ∀ l ∈ later, l.settles = false

namespace Status

variable {s : Status}

theorem setMagMode_of_visionYaw (h : s.visionYaw = true) (mode : MagMode) :
    s.setMagMode mode = s := by
  simp [setMagMode, setMagMode?, h]

theorem setMagMode_of_magnetometer (h : s.visionYaw = false) (mode : MagMode) :
    s.setMagMode mode = { s with yaw := .magnetometer mode } := by
  simp [setMagMode, setMagMode?, h]

theorem write_frame (s : Status) (field : OpenField) :
    (s.write field).yaw = s.yaw ∧ (s.write field).declination = s.declination := by
  cases field <;> exact ⟨rfl, rfl⟩

/-- No call leaves declination fused beside vision. -/
theorem call_visionYaw (alone : s.visionYaw = true → s.declination = false) (k : StatusCall) :
    (s.call k).visionYaw = true → (s.call k).declination = false := by
  cases k with
  | selectMagMode mode =>
      rw [call]
      cases hv : s.visionYaw with
      | true => rw [setMagMode_of_visionYaw hv]; exact alone
      | false => rw [setMagMode_of_magnetometer hv]; exact nofun
  | decideDeclination fuse =>
      intro hv
      have observed : s.yaw = .vision := eq_of_beq hv
      simp [call, setDeclination, magThreeAxis, magMode, observed]
  | claimVisionYaw => exact fun _ => rfl
  | write field =>
      obtain ⟨yaw, declination⟩ := s.write_frame field
      rw [call, visionYaw, yaw, declination]
      exact alone

theorem visionYaw_after (calls : List StatusCall) :
    (initial.after calls).visionYaw = true → (initial.after calls).declination = false := by
  induction calls using List.reverseRecOn with
  | nil => exact fun _ => rfl
  | append_singleton calls k ih =>
      rw [after_concat]
      exact call_visionYaw ih k

/-- A call finds declination astray and does not settle it, or leaves it behind. -/
theorem strays_call_iff (alone : s.visionYaw = true → s.declination = false) (k : StatusCall) :
    (s.call k).Strays ↔ s.Strays ∧ k.settles = false ∨
      k.Leaves ∧ s.declination = true ∧ s.magThreeAxis = true := by
  cases k with
  | selectMagMode mode =>
      cases hv : s.visionYaw with
      | true => simp [call, setMagMode_of_visionYaw hv, Strays, alone hv]
      | false =>
          have strays : ({ s with yaw := .magnetometer mode } : Status).Strays ↔
              s.declination = true ∧ mode ≠ .threeAxis := by
            simp [Strays, magThreeAxis, magMode]
          rw [call, setMagMode_of_magnetometer hv, strays]
          cases three : s.magThreeAxis <;>
            simp [Strays, StatusCall.settles, StatusCall.Leaves, three, and_comm]
  | decideDeclination fuse =>
      have settled : ¬ (s.setDeclination fuse).Strays := fun ⟨fused, left⟩ =>
        Bool.false_ne_true (left.symm.trans (Bool.and_eq_true_iff.mp fused).2)
      simp [call, settled, StatusCall.settles, StatusCall.Leaves]
  | claimVisionYaw => simp [call, Strays, StatusCall.settles, StatusCall.Leaves, claimVisionYaw]
  | write field =>
      obtain ⟨yaw, declination⟩ := s.write_frame field
      simp [call, Strays, StatusCall.settles, StatusCall.Leaves, magThreeAxis, magMode, yaw,
        declination]

theorem leftBehind_concat_iff {calls : List StatusCall} {k : StatusCall} :
    s.LeftBehind (calls ++ [k]) ↔ s.LeftBehind calls ∧ k.settles = false ∨
      k.Leaves ∧ (s.after calls).declination = true ∧ (s.after calls).magThreeAxis = true := by
  constructor
  · rintro ⟨earlier, l, later, split, leaves, fused, three, unsettled⟩
    rcases List.eq_nil_or_concat later with rfl | ⟨later, last, rfl⟩
    · obtain ⟨rfl, rfl⟩ := List.append_singleton_inj.mp split
      exact Or.inr ⟨leaves, fused, three⟩
    · rw [List.concat_eq_append] at split unsettled
      rw [← List.cons_append, ← List.append_assoc] at split
      obtain ⟨rfl, rfl⟩ := List.append_singleton_inj.mp split
      exact Or.inl ⟨⟨earlier, l, later, rfl, leaves, fused, three,
        fun j hj => unsettled j (List.mem_append_left _ hj)⟩, unsettled k (by simp)⟩
  · rintro (⟨⟨earlier, l, later, rfl, leaves, fused, three, unsettled⟩, last⟩ | ⟨leaves, held⟩)
    · refine ⟨earlier, l, later ++ [k], by simp, leaves, fused, three, fun j hj => ?_⟩
      rcases List.mem_append.mp hj with hj | hj
      · exact unsettled j hj
      · rw [List.mem_singleton.mp hj]
        exact last
    · exact ⟨calls, k, [], rfl, leaves, held.1, held.2, List.forall_mem_nil _⟩

theorem strays_after_iff (calls : List StatusCall) :
    (initial.after calls).Strays ↔ initial.LeftBehind calls := by
  induction calls using List.reverseRecOn with
  | nil =>
      refine iff_of_false (fun h => Bool.false_ne_true h.1) ?_
      rintro ⟨earlier, _, _, split, -⟩
      simp at split
  | append_singleton calls k ih =>
      have last := strays_call_iff (visionYaw_after calls) k
      rw [leftBehind_concat_iff, ← ih, ← last, after_concat]

end Status

/-! ## The law -/

/-- After any calls on a new status, its word shows exactly one height source and at most one
observer of yaw, and declination never beside vision.  Declination is fused, and shown, on three
axes only, if and only if no call that left three axes has left it behind. -/
theorem status_word_exclusive (calls : List StatusCall) :
    let s := Status.initial.after calls
    let shows (f : Flag) : Prop := s.word.testBit f.position = true
    (∃! f, f ∈ Flag.heights ∧ shows f) ∧
    (∀ f ∈ Flag.observers, ∀ g ∈ Flag.observers, shows f → shows g → f = g) ∧
    (shows .declination → ¬ shows .visionYaw) ∧
    ((s.declination = true → s.magThreeAxis = true) ↔ ¬ Status.initial.LeftBehind calls) ∧
    ((shows .declination → shows .magThreeAxis) ↔ ¬ Status.initial.LeftBehind calls) := by
  intro s shows
  have seen (f : Flag) : shows f ↔ f.isSet s = true := iff_of_eq (by rw [← s.testBit_word f])
  have law : (s.declination = true → s.magThreeAxis = true) ↔
      ¬ Status.initial.LeftBehind calls := by
    rw [← Status.strays_after_iff, Status.Strays, not_and, Bool.not_eq_false]
  refine ⟨⟨s.height.flag, ?_, ?_⟩, fun f hf g hg => ?_, ?_, law, ?_⟩
  · have own := s.height.flag_mem
    exact ⟨own, (seen _).mpr ((isSet_height_iff own).mpr rfl)⟩
  · rintro f ⟨hf, shown⟩
    exact (isSet_height_iff hf).mp ((seen f).mp shown)
  · rw [seen, seen, isSet_observer_iff hf, isSet_observer_iff hg]
    intro first second
    exact Option.some.inj (first.symm.trans second)
  · rw [seen, seen]
    intro fused observed
    exact Bool.false_ne_true ((Status.visionYaw_after calls observed).symm.trans fused)
  · rw [seen, seen]
    exact law

/-- A heading selected after declination was fused on three axes leaves declination fused. -/
theorem declination_left_behind :
    let s := Status.initial.after
      [.selectMagMode .threeAxis, .decideDeclination true, .selectMagMode .heading]
    s.declination = true ∧ s.magThreeAxis = false ∧
      s.word.testBit Flag.declination.position = true ∧
      s.word.testBit Flag.magThreeAxis.position = false := by
  decide

end NavArbiter

/-
# Nothing of the status is lost in telemetry

A word tells the status it was made of, although two choices of it are spread over several bits: a
height source has one bit of its own, and so has every observer of yaw but the magnetometer that is
off, which is told by the absence of the others (`word_inj`).

Between words only changes are told, each as the name of a flag with its value now.  Names and bits
are two tables over the same flags.  Both are injective, so a change can be carried out on a word
without knowing the status (`follow`), and whoever has the first word and then follows the changes
has every word, hence every status.

    told                     known
    a word                   the status
    a word, then changes     the status at each time
-/
import Mathlib.Data.List.Nodup
import NavArbiter.Proofs.StatusWord

namespace NavArbiter

/-! ## Statuses by their flags -/

theorem HeightSource.flag_injective {a b : HeightSource} (h : a.flag = b.flag) : a = b := by
  revert h
  cases a <;> cases b <;> simp [flag]

theorem YawSource.flag?_injective {a b : YawSource} (h : a.flag? = b.flag?) : a = b := by
  revert h
  rcases a with (_ | _ | _) | _ <;> rcases b with (_ | _ | _) | _ <;> simp [flag?]

theorem YawSource.flag?_mem {yaw : YawSource} {f : Flag} (h : yaw.flag? = some f) :
    f ∈ Flag.observers := by
  rcases yaw with (_ | _ | _) | _ <;> cases h <;> decide

namespace Status

variable {s t : Status}

/-- A status is known by its flags. -/
theorem ext_isSet (h : ∀ f : Flag, f.isSet s = f.isSet t) : s = t := by
  have height : s.height = t.height := by
    have own := s.height.flag_mem
    have shown := (isSet_height_iff own).mpr (rfl : s.height.flag = s.height.flag)
    rw [h, isSet_height_iff own] at shown
    exact HeightSource.flag_injective shown
  have yaw : s.yaw = t.yaw := by
    have same (f : Flag) (hf : f ∈ Flag.observers) :
        s.yaw.flag? = some f ↔ t.yaw.flag? = some f := by
      rw [← isSet_observer_iff hf, ← isSet_observer_iff hf, h]
    apply YawSource.flag?_injective
    refine Option.ext fun f => ⟨fun hs => ?_, fun ht => ?_⟩
    · exact (same f (YawSource.flag?_mem hs)).mp hs
    · exact (same f (YawSource.flag?_mem ht)).mpr ht
  cases s
  cases t
  congr
  · exact h .tiltAligned
  · exact h .yawAligned
  · exact h .gps
  · exact h .flow
  · exact h .visionPosition
  · exact h .inAir
  · exact h .windValid
  · exact h .declination

theorem word_inj : s.word = t.word ↔ s = t := by
  refine ⟨fun h => ext_isSet fun f => ?_, congrArg word⟩
  rw [← testBit_word, ← testBit_word, h]

/-- A bit of the word that shows no flag is zero. -/
theorem testBit_word_of_unused {n : Nat} (unused : ∀ f : Flag, f.position ≠ n) :
    s.word.testBit n = false := by
  rw [word, testBit_foldl, Nat.zero_testBit, Bool.false_or, List.any_eq_false]
  rintro f - h
  exact unused f (eq_of_beq (Bool.and_eq_true_iff.mp h).2)

end Status

/-! ## Changes by name -/

namespace Flag

/-- No two flags share a name. -/
theorem name_injective {f g : Flag} (h : f.name = g.name) : f = g := by
  revert h
  cases f <;> cases g <;> simp [name]

/-- The flag with a name. -/
def ofName? (name : String) : Option Flag := all.find? fun f => f.name == name

theorem ofName?_name (f : Flag) : ofName? f.name = some f := by
  cases found : ofName? f.name with
  | none => simpa using List.find?_eq_none.mp found f f.mem_all
  | some g =>
      have same : g.name = f.name := by simpa using List.find?_some found
      rw [name_injective same]

/-- The word with the bit of a flag written. -/
def write (w : Nat) (f : Flag) (b : Bool) : Nat :=
  if w.testBit f.position = b then w else w ^^^ 1 <<< f.position

theorem testBit_write (w : Nat) (f : Flag) (b : Bool) (n : Nat) :
    (write w f b).testBit n = if f.position = n then b else w.testBit n := by
  unfold write
  by_cases own : f.position = n
  · subst own
    rw [if_pos rfl]
    split
    · next same => exact same
    · next other =>
      rw [Nat.testBit_xor, Nat.one_shiftLeft, Nat.testBit_two_pow_self, Bool.xor_true]
      exact Bool.not_eq.mpr other
  · rw [if_neg own]
    split
    · rfl
    · rw [Nat.testBit_xor, Nat.one_shiftLeft, Nat.testBit_two_pow_of_ne own, Bool.xor_false]

end Flag

namespace Status

/-- The word after a change that was told; one with an unknown name changes nothing. -/
def followOne (w : Nat) (told : String × Bool) : Nat :=
  match Flag.ofName? told.1 with
  | some f => f.write w told.2
  | none => w

/-- The word after changes that were told. -/
def follow (w : Nat) (told : List (String × Bool)) : Nat := told.foldl followOne w

variable {now before : Status}

theorem mem_changes_iff {f : Flag} {b : Bool} : (f, b) ∈ now.changes before ↔
    now.word.testBit f.position ≠ before.word.testBit f.position ∧
      b = now.word.testBit f.position := by
  have differ : (now.word ^^^ before.word).testBit f.position = true ↔
      now.word.testBit f.position ≠ before.word.testBit f.position := by
    rw [Nat.testBit_xor, bne_iff_ne]
  simp only [changes, List.mem_map, List.mem_filter, Prod.mk.injEq]
  constructor
  · rintro ⟨g, ⟨-, changed⟩, rfl, rfl⟩
    exact ⟨differ.mp changed, rfl⟩
  · rintro ⟨changed, rfl⟩
    exact ⟨f, ⟨f.mem_all, differ.mpr changed⟩, rfl, rfl⟩

theorem mem_transitions_iff {told : String} {b : Bool} : (told, b) ∈ now.transitions before ↔
    ∃ f : Flag, f.name = told ∧
      now.word.testBit f.position ≠ before.word.testBit f.position ∧
      b = now.word.testBit f.position := by
  simp only [transitions, List.mem_map, Prod.mk.injEq, Prod.exists, mem_changes_iff]
  constructor
  · rintro ⟨f, _, changed, rfl, rfl⟩
    exact ⟨f, rfl, changed⟩
  · rintro ⟨f, rfl, changed⟩
    exact ⟨f, b, changed, rfl, rfl⟩

theorem names_nodup : ((now.transitions before).map Prod.fst).Nodup := by
  have names : (now.transitions before).map Prod.fst =
      (Flag.all.filter fun f => (now.word ^^^ before.word).testBit f.position).map Flag.name := by
    simp only [transitions, changes, List.map_map]
    rfl
  rw [names]
  have once : Flag.all.Nodup := by decide
  exact (once.filter _).map fun _ _ h => Flag.name_injective h

/-! ## Following changes -/

theorem followOne_name (w : Nat) (f : Flag) (b : Bool) : followOne w (f.name, b) = f.write w b := by
  rw [followOne, Flag.ofName?_name]

/-- Changes that all agree with a word write its bits, and leave the others. -/
theorem testBit_follow {target : Nat} (cs : List (Flag × Bool))
    (agree : ∀ c ∈ cs, c.2 = target.testBit c.1.position) (w n : Nat) :
    (follow w (cs.map fun c => (c.1.name, c.2))).testBit n =
      if ∃ c ∈ cs, c.1.position = n then target.testBit n else w.testBit n := by
  induction cs generalizing w with
  | nil => simp [follow]
  | cons c cs ih =>
      have rest :=
        ih (fun d hd => agree d (List.mem_cons_of_mem c hd)) (followOne w (c.1.name, c.2))
      rw [follow] at rest
      rw [follow, List.map_cons, List.foldl_cons, rest, followOne_name, Flag.testBit_write]
      simp only [List.mem_cons, exists_eq_or_imp]
      by_cases later : ∃ d ∈ cs, d.1.position = n
      · rw [if_pos later, if_pos (Or.inr later)]
      · by_cases own : c.1.position = n
        · rw [if_neg later, if_pos own, if_pos (Or.inl own), agree c List.mem_cons_self, own]
        · rw [if_neg later, if_neg own, if_neg (not_or.mpr ⟨own, later⟩)]

theorem follow_transitions (now before : Status) :
    follow before.word (now.transitions before) = now.word := by
  refine Nat.eq_of_testBit_eq fun n => ?_
  rw [transitions, testBit_follow _ fun c hc => (mem_changes_iff.mp hc).2]
  split
  · rfl
  · next untold =>
    by_cases used : ∃ f : Flag, f.position = n
    · obtain ⟨f, rfl⟩ := used
      by_contra differ
      exact untold ⟨(f, _), mem_changes_iff.mpr ⟨Ne.symm differ, rfl⟩, rfl⟩
    · have unused := not_exists.mp used
      rw [testBit_word_of_unused unused, testBit_word_of_unused unused]

/-- The changes from each status of a history to the next. -/
def history : Status → List Status → List (List (String × Bool))
  | _, [] => []
  | s, t :: later => t.transitions s :: history t later

/-- Who follows the changes from the first word on has the word of every status. -/
theorem scanl_history (s : Status) (later : List Status) :
    (history s later).scanl follow s.word = (s :: later).map word := by
  induction later generalizing s with
  | nil => rfl
  | cons t later ih =>
      rw [history, List.scanl_cons, follow_transitions, ih]
      rfl

theorem history_inj {s t : Status} {later later' : List Status} :
    s.word = t.word ∧ history s later = history t later' ↔ s = t ∧ later = later' := by
  constructor
  · rintro ⟨first, told⟩
    have words := s.scanl_history later
    rw [first, told, t.scanl_history] at words
    exact List.cons.inj ((List.map_inj_right fun _ _ => word_inj.mp).mp words.symm)
  · rintro ⟨rfl, rfl⟩
    exact ⟨rfl, rfl⟩

end Status

/-! ## The law -/

/-- Words are equal only for equal statuses.  The changes told between two statuses are exactly the
flags whose bits differ, each told once, by its name and with its value now, and no other bit of the
words differs.  The first word with the changes since tells every later word of a history, and two
histories that agree in these are the same. -/
theorem telemetry_lossless :
    (∀ s t : Status, s.word = t.word ↔ s = t) ∧
    (∀ now before : Status,
      (∀ told b, (told, b) ∈ now.transitions before ↔ ∃ f : Flag, f.name = told ∧
        now.word.testBit f.position ≠ before.word.testBit f.position ∧
        b = now.word.testBit f.position) ∧
      ((now.transitions before).map Prod.fst).Nodup ∧
      ∀ n, (∃ f : Flag, f.position = n) ∨ now.word.testBit n = before.word.testBit n) ∧
    (∀ (s : Status) (later : List Status),
      (Status.history s later).scanl Status.follow s.word = (s :: later).map Status.word) ∧
    ∀ (s t : Status) (later later' : List Status),
      s.word = t.word ∧ Status.history s later = Status.history t later' ↔
        s = t ∧ later = later' := by
  refine ⟨fun _ _ => Status.word_inj, fun now before => ⟨fun _ _ => Status.mem_transitions_iff,
    Status.names_nodup, fun n => ?_⟩, Status.scanl_history, fun _ _ _ _ => Status.history_inj⟩
  refine or_iff_not_imp_left.mpr fun used => ?_
  have unused := not_exists.mp used
  rw [Status.testBit_word_of_unused unused, Status.testBit_word_of_unused unused]

end NavArbiter

/-
# A history as a list

Four calls write a history.  Beside it goes a list, bounded by nothing but that it keeps its last
`capacity` elements:

    call       made of the list                         answer
    push x     x appended, the last elements kept       done
    set i x    the element at place i replaced          done
               if there is none, left as it is          not done
    map f      f applied to every element               done
    clear      nothing left                             done

Whatever the calls, the history holds the list and gives its answers (`samples_writeAll`).

The look-up at a horizon goes by place and not by time: of the places whose samples are not later
than the horizon it takes the greatest.  A later horizon admits more places.  If it takes another
one, the sample there was beyond the earlier horizon, so the time found does not fall even where the
times are out of order.  Where they are in order, the last place is also the greatest time.
-/
import Mathlib.Order.Bounds.Basic
import NavArbiter.Proofs.Consumption

namespace NavArbiter

variable {β : Type}

/-! ## Writes -/

/-- A call that writes a history. -/
inductive HistoryWrite (β : Type) where
  | push (x : β)
  | set (i : Nat) (x : β)
  | map (f : β → β)
  | clear

/-- What a write makes of a list that keeps its last `capacity` elements, and whether it is done. -/
def HistoryWrite.onList (capacity : Nat) (xs : List β) : HistoryWrite β → List β × Bool
  | push x => (lastUpTo capacity (xs ++ [x]), true)
  | set i x => if i < xs.length then (xs.set i x, true) else (xs, false)
  | map f => (xs.map f, true)
  | clear => ([], true)

/-- The history after a write, and whether it is done. -/
def History.write (b : History β) : HistoryWrite β → History β × Bool
  | .push x => (b.push x, true)
  | .set i x =>
      match b.set? i x with
      | some written => (written, true)
      | none => (b, false)
  | .map f => (b.map f, true)
  | .clear => (b.clear, true)

/-- What writes make of a state one after another, and the answer to each of them. -/
def writeAll {σ ω : Type} (write : σ → ω → σ × Bool) : σ → List ω → σ × List Bool
  | s, [] => (s, [])
  | s, w :: ws =>
      let first := write s w
      let rest := writeAll write first.1 ws
      (rest.1, first.2 :: rest.2)

namespace History

theorem write_set (b : History β) (i : Nat) (x : β) :
    (b.write (.set i x)).1.capacity = b.capacity ∧
      HistoryWrite.onList b.capacity b.samples (.set i x) =
        ((b.write (.set i x)).1.samples, (b.write (.set i x)).2) := by
  by_cases present : i < b.samples.length <;> simp [write, set?, HistoryWrite.onList, present]

theorem capacity_write (b : History β) (w : HistoryWrite β) :
    (b.write w).1.capacity = b.capacity := by
  cases w with
  | set i x => exact (b.write_set i x).1
  | push | map | clear => rfl

/-- A write does to the samples what it does to the list. -/
theorem samples_write (b : History β) (w : HistoryWrite β) :
    w.onList b.capacity b.samples = ((b.write w).1.samples, (b.write w).2) := by
  cases w with
  | push x => exact Prod.ext (b.samples_push x).symm rfl
  | set i x => exact (b.write_set i x).2
  | map | clear => rfl

theorem samples_writeAll (b : History β) (ws : List (HistoryWrite β)) :
    writeAll (HistoryWrite.onList b.capacity) b.samples ws =
      ((writeAll write b ws).1.samples, (writeAll write b ws).2) := by
  induction ws generalizing b with
  | nil => rfl
  | cons w ws ih =>
      have rest := ih (b.write w).1
      rw [b.capacity_write w] at rest
      simp only [writeAll, b.samples_write w, rest]

end History

/-! ## The look-up at a horizon -/

section Lookup

variable [Timed β]

/-- The places of the elements that are not later than the horizon. -/
def placesUpTo (xs : List β) (horizon : Time) : Set Nat :=
  {i | ∃ x, xs[i]? = some x ∧ time x ≤ horizon}

variable {b : History β} {horizon : Time} {x : β}

namespace History

/-- The look-up splits the samples: what follows the one found lies beyond the horizon. -/
theorem near?_eq_some_iff_append : b.near? horizon = some x ↔
    time x ≤ horizon ∧ ∃ older newer, b.samples = older ++ x :: newer ∧
      ∀ y ∈ newer, horizon < time y := by
  rw [near?, List.find?_eq_some_iff_append, decide_eq_true_iff]
  refine and_congr_right fun _ => ?_
  constructor
  · rintro ⟨newer, older, split, beyond⟩
    refine ⟨older.reverse, newer.reverse, ?_, fun y hy => ?_⟩
    · rw [← List.reverse_reverse b.samples, split]
      simp
    · simpa using beyond y (List.mem_reverse.mp hy)
  · rintro ⟨older, newer, split, beyond⟩
    refine ⟨newer.reverse, older.reverse, ?_, fun y hy => ?_⟩
    · rw [split]
      simp
    · simpa using beyond y (List.mem_reverse.mp hy)

theorem near?_eq_some_iff : b.near? horizon = some x ↔
    ∃ i, b.samples[i]? = some x ∧ IsGreatest (placesUpTo b.samples horizon) i := by
  rw [near?_eq_some_iff_append]
  constructor
  · rintro ⟨reached, older, newer, split, beyond⟩
    have place : b.samples[older.length]? = some x := by simp [split]
    refine ⟨older.length, place, ⟨x, place, reached⟩, ?_⟩
    rintro j ⟨y, hy, passed⟩
    by_contra later
    have mem : y ∈ newer := by
      rw [split, List.getElem?_append_right (by omega),
        List.getElem?_cons, if_neg (by omega)] at hy
      exact List.mem_of_getElem? hy
    exact absurd passed (Nat.not_le.mpr (beyond y mem))
  · rintro ⟨i, place, ⟨y, hy, reached⟩, greatest⟩
    cases hy.symm.trans place
    obtain ⟨inside, rfl⟩ := List.getElem?_eq_some_iff.mp place
    refine ⟨reached, b.samples.take i, b.samples.drop (i + 1), ?_, fun z hz => ?_⟩
    · rw [List.getElem_cons_drop, List.take_append_drop]
    · obtain ⟨k, hk⟩ := List.mem_iff_getElem?.mp hz
      rw [List.getElem?_drop] at hk
      by_contra passed
      have : i + 1 + k ≤ i := greatest ⟨z, hk, Nat.not_lt.mp passed⟩
      omega

theorem near?_eq_none_iff : b.near? horizon = none ↔ ∀ x ∈ b.samples, horizon < time x := by
  simp [near?]

/-- Among samples in the order of their times, the last place has the greatest time. -/
theorem isGreatest_time_of_sorted (sorted : b.samples.Pairwise fun x y => time x ≤ time y)
    (found : b.near? horizon = some x) :
    IsGreatest {t | t ≤ horizon ∧ ∃ y ∈ b.samples, time y = t} (time x) := by
  obtain ⟨reached, older, newer, split, beyond⟩ := near?_eq_some_iff_append.mp found
  rw [split] at sorted ⊢
  refine ⟨⟨reached, x, by simp, rfl⟩, ?_⟩
  rintro _ ⟨passed, y, hy, rfl⟩
  rcases List.mem_append.mp hy with hy | hy
  · exact (List.pairwise_append.mp sorted).2.2 y hy x List.mem_cons_self
  rcases List.mem_cons.mp hy with rfl | hy
  · exact le_rfl
  · exact absurd passed (Nat.not_le.mpr (beyond y hy))

end History

end Lookup

/-! ## The law -/

/-- Every history of a positive capacity, after any writes: it holds the list that the same writes
make and gives its answers.  The look-up at a horizon finds the sample at the last place that the
horizon admits, and none exactly if all are beyond it; the time found does not fall as the horizon
rises, and is the greatest up to the horizon if the samples are in the order of their times. -/
theorem History.list_model [Timed β] {capacity : Nat} (room : 0 < capacity)
    (writes : List (HistoryWrite β)) :
    ∃ first : History β, History.ofCapacity? capacity = some first ∧
      let b := (writeAll History.write first writes).1
      let model := writeAll (HistoryWrite.onList capacity) [] writes
      let xs := model.1
      (b.samples = xs ∧ (writeAll History.write first writes).2 = model.2 ∧
        b.oldest? = xs.head? ∧ b.newest? = xs.getLast? ∧ ∀ i, b.get? i = xs[i]?) ∧
      (∀ horizon x, b.near? horizon = some x ↔
        ∃ i, xs[i]? = some x ∧ IsGreatest (placesUpTo xs horizon) i) ∧
      (∀ horizon, b.near? horizon = none ↔ ∀ x ∈ xs, horizon < time x) ∧
      (∀ k l x, k ≤ l → b.near? k = some x → ∃ y, b.near? l = some y ∧ time x ≤ time y) ∧
      (xs.Pairwise (fun x y => time x ≤ time y) → ∀ horizon x, b.near? horizon = some x →
        IsGreatest {t | t ≤ horizon ∧ ∃ y ∈ xs, time y = t} (time x)) := by
  refine ⟨.empty capacity room, dif_pos room, ?_⟩
  intro b model xs
  have both : model = (b.samples, (writeAll History.write (.empty capacity room) writes).2) :=
    History.samples_writeAll (.empty capacity room) writes
  have held : b.samples = xs := (congrArg Prod.fst both).symm
  refine ⟨⟨held, (congrArg Prod.snd both).symm, ?_, ?_, fun i => ?_⟩, fun horizon x => ?_,
    fun horizon => ?_, fun k l x hkl found => History.near?_mono hkl found,
    fun sorted horizon x found => ?_⟩
  · rw [History.oldest?, held]
  · rw [History.newest?, held]
  · rw [History.get?, held]
  · rw [← held]
    exact History.near?_eq_some_iff
  · rw [← held]
    exact History.near?_eq_none_iff
  · rw [← held] at sorted ⊢
    exact History.isGreatest_time_of_sorted sorted found

/-- The times are out of order, and there is no fourth place to replace. -/
def disorderedWrites : List (HistoryWrite (BaroSample Nat)) :=
  [.push ⟨100, 0⟩, .push ⟨300, 0⟩, .push ⟨200, 0⟩, .push ⟨400, 0⟩, .set 0 ⟨350, 0⟩,
    .set 3 ⟨500, 0⟩, .map fun w => { w with height := w.height + 1 }]

/-- A horizon past two of these times finds the sample at the later place, which is the older
one. -/
theorem History.list_model_disordered :
    0 < 3 ∧ ∃ first, History.ofCapacity? 3 = some first ∧
      let after := writeAll History.write first disorderedWrites
      after.1.samples.map time = [350, 200, 400] ∧
      after.2 = [true, true, true, true, true, false, true] ∧
      ∃ x y, after.1.near? 380 = some x ∧ time x = 200 ∧
        after.1.near? 400 = some y ∧ 200 ≤ time y := by
  have room : 0 < 3 := by decide
  obtain ⟨first, made, ⟨held, answered, -⟩, -, -, rising, -⟩ :=
    History.list_model room disorderedWrites
  have same : History.empty 3 = first := Option.some.inj made
  subst same
  have found : ((writeAll History.write (.empty 3) disorderedWrites).1.near? 380).map time =
      some 200 := by decide +kernel
  obtain ⟨x, hx, old⟩ := Option.map_eq_some_iff.mp found
  obtain ⟨y, hy, later⟩ := rising 380 400 x (by decide) hx
  rw [old] at later
  exact ⟨room, _, made, (congrArg (List.map time) held).trans (by decide +kernel),
    answered.trans (by decide +kernel), x, y, hx, old, hy, later⟩

end NavArbiter

/-
# A core with a record beside it

`Recorder` puts beside a core a list of marks: a jump for every jump by which its log grew, and an
alignment, with the navigation state of that moment, for every alignment of its outputs.  The
record is never read, so a recorded cycle is the plain cycle (`core_update`); it only shows what
the plain cycle does not keep.

`Ledger` is the part of a core that marks are about, the buffered outputs with the log, and
`Logs r ks r'` says that on the way from `r` to `r'` marks of the kinds `ks` were made and the
ledger of the core followed them.  Everything that can be said of the jumps of a cycle is then a
statement about a list of marks entered into a ledger.
-/
import NavArbiter.Proofs.Transport

namespace NavArbiter

/-- What is noted of a core. -/
inductive Mark (α : Type) where
  | jump (j : Jump α)
  | aligned (n : NavState α)

/-- The kind of a mark that is a jump. -/
def Mark.kind? {α : Type} : Mark α → Option JumpKind
  | .jump j => some j.kind
  | .aligned _ => none

/-- The jumps among marks, in their order. -/
def Mark.jumps {α : Type} (ms : List (Mark α)) : List (Jump α) :=
  ms.filterMap fun
    | .jump j => some j
    | .aligned _ => none

/-- A core with the marks made of it so far. -/
structure Recorder (α C : Type) where
  core : C
  marks : List (Mark α)

variable {α C : Type}

namespace Recorder

/-- A core of which nothing was noted yet. -/
def of (c : C) : Recorder α C := ⟨c, []⟩

variable [Estimator α C]

/-- The recorder with its core replaced; the jumps by which the log of the core grew are noted. -/
def observe (r : Recorder α C) (c : C) : Recorder α C where
  core := c
  marks := r.marks ++
    ((Estimator.jumps c).pending.drop (Estimator.jumps r.core).pending.length).map .jump

/-- The recorder with the outputs of its core aligned, which is noted too. -/
def align (r : Recorder α C) : Recorder α C :=
  let seen := r.observe (Estimator.alignOutputs r.core)
  { seen with marks := seen.marks ++ [.aligned (Estimator.nav r.core)] }

instance : Estimator α (Recorder α C) where
  nav r := Estimator.nav r.core
  setNav r n := r.observe (Estimator.setNav r.core n)
  covariance r := Estimator.covariance r.core
  setCovariance r p := r.observe (Estimator.setCovariance r.core p)
  rotationVariances r := Estimator.rotationVariances r.core
  innovation r k := Estimator.innovation r.core k
  testRatio r k := Estimator.testRatio r.core k
  terrain r := Estimator.terrain r.core
  originSet r := Estimator.originSet r.core
  refreshDeclination r := r.observe (Estimator.refreshDeclination r.core)
  flowVariance r w := Estimator.flowVariance r.core w
  baroOffset r := Estimator.baroOffset r.core
  heightOffset r := Estimator.heightOffset r.core
  resetPosition r source h := (Estimator.resetPosition r.core source h).map id r.observe
  resetVelocity r source h := (Estimator.resetVelocity r.core source h).map id r.observe
  resetHeight r source h := (Estimator.resetHeight r.core source h).map id r.observe
  resetHeading r field := (Estimator.resetHeading r.core field).map id r.observe
  alignOutputs := align
  outputs r := Estimator.outputs r.core
  setOutputs r o := r.observe (Estimator.setOutputs r.core o)
  jumps r := Estimator.jumps r.core
  setJumps r l := r.observe (Estimator.setJumps r.core l)

/-- The arbitration cannot tell a recorder from its core. -/
theorem core_hom : Estimator.Hom 0 (core : Recorder α C → C) where
  nav _ := rfl
  setNav _ _ := rfl
  covariance _ := rfl
  setCovariance _ _ := rfl
  rotationVariances _ := rfl
  innovation _ _ := rfl
  testRatio _ _ := rfl
  terrain _ := rfl
  originSet _ := rfl
  refreshDeclination _ := rfl
  flowVariance _ w := by
    rw [Shiftable.shift_zero]
    rfl
  baroOffset _ := rfl
  heightOffset _ := rfl
  resetPosition _ _ h := by
    rw [Histories.shift_zero]
    rfl
  resetVelocity _ _ h := by
    rw [Histories.shift_zero]
    rfl
  resetHeight _ _ h := by
    rw [Histories.shift_zero]
    rfl
  resetHeading _ _ := rfl
  alignOutputs _ := rfl
  outputs _ := (History.shift_zero _).symm
  setOutputs _ o := by
    rw [History.shift_zero]
    rfl
  jumps _ := rfl
  setJumps _ _ := rfl

/-- Without its record, a recorded cycle is the plain cycle. -/
theorem core_update [Scalar α] (a : Arbiter α) (clock : Clock) (h : Histories α)
    (r : Recorder α C) : (a.update clock h r).map core = a.update clock h r.core := by
  have later := core_hom.update a clock h r
  rw [Arbiter.shift_zero, Clock.shift_zero, Histories.shift_zero, Cycle.shift_zero] at later
  exact later.symm

end Recorder

/-! ## Ledgers -/

/-- Buffered outputs with the log of jumps. -/
structure Ledger (α : Type) where
  outputs : History (OutputSample α)
  log : JumpLog α

/-- The ledger of a core. -/
def Ledger.of [Estimator α C] (c : C) : Ledger α := ⟨Estimator.outputs c, Estimator.jumps c⟩

namespace Ledger

/-- The ledger after a mark: a jump waits in the log, an alignment sets the outputs and drops what
was waiting. -/
def enter (l : Ledger α) : Mark α → Ledger α
  | .jump j => ⟨l.outputs, l.log.record j⟩
  | .aligned n => ⟨l.outputs.map fun o => n.output o.time, l.log.cleared⟩

/-- The ledger after marks, in their order. -/
def enterAll (l : Ledger α) (ms : List (Mark α)) : Ledger α := ms.foldl enter l

theorem enterAll_append (l : Ledger α) (ms ns : List (Mark α)) :
    l.enterAll (ms ++ ns) = (l.enterAll ms).enterAll ns := List.foldl_append

/-- Jumps only wait. -/
theorem outputs_enterAll_jumps (js : List (Jump α)) :
    ∀ l : Ledger α, (l.enterAll (js.map .jump)).outputs = l.outputs := by
  induction js with
  | nil => exact fun _ => rfl
  | cons j js ih => exact fun l => ih (l.enter (.jump j))

theorem pending_enterAll_jumps (js : List (Jump α)) :
    ∀ l : Ledger α, (l.enterAll (js.map .jump)).log.pending = l.log.pending ++ js := by
  induction js with
  | nil => exact fun l => (List.append_nil _).symm
  | cons j js ih =>
      intro l
      refine (ih (l.enter (.jump j))).trans ?_
      simp [enter, JumpLog.record]

/-- Every counter counts the jumps of its kind, and an alignment counts for none. -/
theorem counters_enterAll (k : JumpKind) (ms : List (Mark α)) :
    ∀ l : Ledger α, (l.enterAll ms).log.counters.get k =
      l.log.counters.get k + UInt8.ofNat ((ms.map Mark.kind?).count (some k)) := by
  induction ms with
  | nil => intro l; simp [enterAll]
  | cons m ms ih =>
      intro l
      refine (ih (l.enter m)).trans ?_
      cases m with
      | aligned n => simp [enter, JumpLog.cleared, Mark.kind?]
      | jump j =>
          simp only [enter, JumpLog.record, JumpCounters.get_count, List.map_cons, Mark.kind?,
            List.count_cons, Option.some_beq_some, beq_iff_eq, UInt8.ofNat_add]
          split
          · rw [UInt8.add_assoc, UInt8.add_comm 1]
            rfl
          · simp

/-- Neither a jump nor an alignment changes how many outputs there are, or their times. -/
theorem times_enterAll (ms : List (Mark α)) :
    ∀ l : Ledger α, (l.enterAll ms).outputs.samples.map time = l.outputs.samples.map time := by
  induction ms with
  | nil => exact fun _ => rfl
  | cons m ms ih =>
      intro l
      refine (ih (l.enter m)).trans ?_
      cases m with
      | jump j => rfl
      | aligned n => simp [enter, Function.comp_def, NavState.output, time]

variable [Scalar α]

/-- The outputs once what waits in the log is applied. -/
def delivered (l : Ledger α) : History (OutputSample α) := Jump.applyAll l.log.pending l.outputs

/-- Jumps are applied after what waited already. -/
theorem delivered_jumps (l : Ledger α) (js : List (Jump α)) :
    (l.enterAll (js.map .jump)).delivered = Jump.applyAll (l.log.pending ++ js) l.outputs := by
  rw [delivered, pending_enterAll_jumps, outputs_enterAll_jumps]

/-- Of the jumps around an alignment those after it are applied, to the outputs that it set. -/
theorem delivered_aligned (l : Ledger α) (pre post : List (Jump α)) (n : NavState α) :
    (l.enterAll (pre.map .jump ++ .aligned n :: post.map .jump)).delivered =
      Jump.applyAll post (l.outputs.map fun o => n.output o.time) := by
  rw [enterAll_append]
  refine (delivered_jumps ((l.enterAll (pre.map .jump)).enter (.aligned n)) post).trans ?_
  simp only [enter, JumpLog.cleared, List.nil_append, outputs_enterAll_jumps]

theorem times_applyAll (js : List (Jump α)) :
    ∀ b : History (OutputSample α),
      (Jump.applyAll js b).samples.map time = b.samples.map time := by
  induction js with
  | nil => exact fun _ => rfl
  | cons j js ih =>
      intro b
      refine (ih (j.applyToOutputs b)).trans ?_
      cases j <;> simp [Jump.applyToOutputs, Jump.apply, Function.comp_def, time]

theorem times_delivered (l : Ledger α) (ms : List (Mark α)) :
    (l.enterAll ms).delivered.samples.map time = l.outputs.samples.map time :=
  (times_applyAll _ _).trans (times_enterAll ms l)

end Ledger

/-! ## What is logged on the way -/

namespace Recorder

variable [Estimator α C]

/-- From `r` to `r'` marks of these kinds were made, in some order, and the ledger followed them. -/
def Logs (r : Recorder α C) (ks : List (Option JumpKind)) (r' : Recorder α C) : Prop :=
  ∃ ms, (ms.map Mark.kind?).Perm ks ∧ r'.marks = r.marks ++ ms ∧
    Ledger.of r'.core = (Ledger.of r.core).enterAll ms

namespace Logs

theorem refl (r : Recorder α C) : Logs r [] r :=
  ⟨[], .refl _, (List.append_nil _).symm, rfl⟩

theorem trans {r r' r'' : Recorder α C} {ks ls : List (Option JumpKind)} (h : Logs r ks r')
    (h' : Logs r' ls r'') : Logs r (ks ++ ls) r'' := by
  obtain ⟨ms, hk, hm, hl⟩ := h
  obtain ⟨ns, hk', hn, hl'⟩ := h'
  refine ⟨ms ++ ns, ?_, ?_, ?_⟩
  · rw [List.map_append]
    exact hk.append hk'
  · rw [hn, hm, List.append_assoc]
  · rw [hl', hl, Ledger.enterAll_append]

theorem perm {r r' : Recorder α C} {ks ls : List (Option JumpKind)} (h : Logs r ks r')
    (p : ks.Perm ls) : Logs r ls r' := by
  obtain ⟨ms, hk, hm, hl⟩ := h
  exact ⟨ms, hk.trans p, hm, hl⟩

/-- What is written afterwards without a mark adds nothing. -/
theorem still {r r' r'' : Recorder α C} {ks : List (Option JumpKind)} (h : Logs r ks r')
    (h' : Logs r' [] r'') : Logs r ks r'' := by
  have ht := h.trans h'
  rw [List.append_nil] at ht
  exact ht

/-- Whatever is replaced in a core, the jumps logged on the way are noted. -/
theorem observe {r : Recorder α C} {c : C} (js : List (Jump α))
    (h : Ledger.of c = (Ledger.of r.core).enterAll (js.map .jump)) :
    Logs r (js.map fun j => some j.kind) (r.observe c) := by
  have hp : (Estimator.jumps c).pending = (Estimator.jumps r.core).pending ++ js := by
    have hpending := Ledger.pending_enterAll_jumps js (Ledger.of r.core)
    rw [← h] at hpending
    exact hpending
  refine ⟨js.map .jump, ?_, ?_, h⟩
  · rw [List.map_map]
    exact .refl _
  · simp [Recorder.observe, hp]

/-- Nothing is noted where the ledger stays. -/
theorem observe_nil {r : Recorder α C} {c : C} (h : Ledger.of c = Ledger.of r.core) :
    Logs r [] (r.observe c) := observe [] h

end Logs

end Recorder

end NavArbiter

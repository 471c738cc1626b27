/-
# Jumps reach the outputs once

At the end of a cycle of the gated filter nothing waits, and every jump that waited before or was
made on the way has been applied once, in order, to every buffered output.  A start of flow on the
ground is the exception: it sets the outputs to the state of that moment, so only the jumps made
after it are applied.  The counters advance by what was made, at most two of a kind, so a reader of
the counters sees exactly the kinds that jumped (`jumps_delivered`).

`Arbiter.recorded` is what was made, read off a recorded run of the same cycle.  `settled_accounted`
says which marks there can be; what is left is to read a list of marks off a ledger.
-/
import NavArbiter.Proofs.JumpBudget

namespace NavArbiter

variable {α : Type}

/-! ## Lists of marks -/

namespace Mark

theorem count_jumps (k : JumpKind) (ms : List (Mark α)) :
    ((jumps ms).map Jump.kind).count k = (ms.map kind?).count (some k) := by
  induction ms with
  | nil => rfl
  | cons m ms ih =>
      cases m with
      | jump j => simpa [jumps, kind?, List.count_cons] using ih
      | aligned n => simpa [jumps, kind?, List.count_cons] using ih

/-- Marks without an alignment are jumps. -/
theorem eq_map_jumps {ms : List (Mark α)} (h : none ∉ ms.map kind?) :
    ms = (jumps ms).map .jump := by
  induction ms with
  | nil => rfl
  | cons m ms ih =>
      cases m with
      | jump j =>
          rw [List.map_cons, List.mem_cons, not_or] at h
          exact congrArg _ (ih h.2)
      | aligned n => exact absurd (List.mem_cons_self ..) h

/-- Marks with one alignment are the jumps before it, the alignment, and the jumps after it. -/
theorem exists_split {ms : List (Mark α)} (h : none ∈ ms.map kind?)
    (hone : (ms.map kind?).count none ≤ 1) :
    ∃ (pre : List (Jump α)) (n : NavState α) (post : List (Jump α)),
      ms = pre.map .jump ++ .aligned n :: post.map .jump := by
  induction ms with
  | nil => cases h
  | cons m ms ih =>
      cases m with
      | jump j =>
          simp only [List.map_cons, kind?, List.mem_cons, reduceCtorEq, false_or] at h
          simp only [List.map_cons, kind?, List.count_cons] at hone
          obtain ⟨pre, n, post, hms⟩ := ih h (by simpa using hone)
          exact ⟨j :: pre, n, post, by rw [hms]; rfl⟩
      | aligned n =>
          have hrest : none ∉ ms.map kind? := by
            rw [← List.count_eq_zero]
            simpa [kind?] using hone
          exact ⟨[], n, jumps ms, congrArg _ (eq_map_jumps hrest)⟩

end Mark

/-! ## The cycle -/

variable [Scalar α]

/-- The jumps and alignments that a cycle makes of a core, in their order. -/
def Arbiter.recorded {C : Type} [Estimator α C] (a : Arbiter α) (clock : Clock) (h : Histories α)
    (c : C) : List (Mark α) :=
  (a.update clock h (Recorder.of c)).core.marks

omit [Scalar α] in
theorem flowStarted_notMem_announce (before now : Status) :
    (.flowStarted : Event α) ∉ Mag.announce before now := by
  simp [Mag.announce]

/-- A cycle enters its marks into the ledger of the core and then applies what waits there. -/
theorem update_ledger (a : Arbiter α) (clock : Clock) (h : Histories α) (f : GatedFilter α) :
    let cycle := a.update clock h f
    let marks := a.recorded clock h f
    let ledger := (Ledger.of f).enterAll marks
    cycle.core.outputs = ledger.delivered ∧
      cycle.core.jumps = ledger.log.cleared ∧
      (none ∈ marks.map Mark.kind? ↔ GroundStart a.standing.status cycle.events) ∧
      (∀ k, (marks.map Mark.kind?).count (some k) ≤ 2) ∧
      (marks.map Mark.kind?).count none ≤ 1 := by
  let r : Recorder α (GatedFilter α) := Recorder.of f
  let x := a.context clock h
  let o := Arbiter.settled x a.standing r
  obtain ⟨ks, ⟨⟨ms, hkinds, hmarks, hledger⟩, haligned⟩, hcount, hone⟩ :=
    settled_accounted x a.standing r rfl
  have herase : a.update clock h f = (a.update clock h r).map Recorder.core :=
    (Recorder.core_update a clock h r).symm
  have hcycle := Arbiter.update_eq a clock h r
  have hrecorded : a.recorded clock h f = ms := by
    show (a.update clock h r).core.marks = ms
    rw [hcycle]
    exact (Recorder.applyJumps_marks o.core).trans hmarks
  have hcore : (a.update clock h f).core = Estimator.applyJumps o.core.core := by
    rw [herase, hcycle]
    exact (Recorder.core_hom.applyJumps o.core).symm
  have hevents : GroundStart a.standing.status (a.update clock h f).events ↔
      GroundStart x.before o.events := by
    rw [herase, hcycle]
    simp only [GroundStart, Cycle.map, List.mem_append, flowStarted_notMem_announce, or_false]
    rfl
  have hfinal : (Ledger.of f).enterAll ms = Ledger.of o.core.core := hledger.symm
  dsimp only
  rw [hrecorded, hcore, hfinal, hevents, hkinds.mem_iff, hkinds.count_eq]
  exact ⟨rfl, rfl, haligned, fun k => hkinds.count_eq (some k) ▸ hcount k, hone⟩

/-- So few jumps do not bring a counter around. -/
theorem ofNat_eq_zero {n : Nat} (h : n ≤ 2) : UInt8.ofNat n = 0 ↔ n = 0 := by
  rw [UInt8.ofNat_eq_iff_mod_eq_toNat]
  simp only [UInt8.toNat_zero]
  omega

/-- In every cycle, on every state of the arbiter and of the core: nothing waits afterwards, and the
times of the outputs stay.  Unless flow starts on the ground, what waited and what was made is
applied once, in order; if it does, the outputs are set to the state of that moment, and what was
made after it is applied.  Each counter advances by what was made of its kind, two at most, so it
changes exactly if something was. -/
theorem jumps_delivered (a : Arbiter α) (clock : Clock) (histories : Histories α)
    (f : GatedFilter α) :
    let cycle := a.update clock histories f
    let marks := a.recorded clock histories f
    let made := Mark.jumps marks
    let groundStart := .flowStarted ∈ cycle.events ∧ a.standing.status.gps = false ∧
      a.standing.status.inAir = false
    cycle.core.jumps.pending = [] ∧
    cycle.core.outputs.samples.map time = f.outputs.samples.map time ∧
    (¬groundStart → marks = made.map .jump ∧
      cycle.core.outputs = Jump.applyAll (f.jumps.pending ++ made) f.outputs) ∧
    (groundStart → ∃ (pre : List (Jump α)) (n : NavState α) (post : List (Jump α)),
      marks = pre.map .jump ++ .aligned n :: post.map .jump ∧
      cycle.core.outputs = Jump.applyAll post (f.outputs.map fun o => n.output o.time)) ∧
    ∀ k, (made.map Jump.kind).count k ≤ 2 ∧
      cycle.core.jumps.counters.get k = f.jumps.counters.get k +
        UInt8.ofNat ((made.map Jump.kind).count k) ∧
      (cycle.core.jumps.counters.get k ≠ f.jumps.counters.get k ↔ ∃ j ∈ made, j.kind = k) := by
  obtain ⟨houtputs, hjumps, haligned, hcount, hone⟩ := update_ledger a clock histories f
  intro cycle marks made groundStart
  refine ⟨?_, ?_, fun hg => ?_, fun hg => ?_, fun k => ?_⟩
  · rw [hjumps]
    rfl
  · rw [houtputs]
    exact Ledger.times_delivered (Ledger.of f) marks
  · have hm : marks = made.map .jump := Mark.eq_map_jumps fun h => hg (haligned.mp h)
    refine ⟨hm, houtputs.trans ?_⟩
    exact (congrArg (fun ms => ((Ledger.of f).enterAll ms).delivered) hm).trans
      (Ledger.delivered_jumps _ _)
  · obtain ⟨pre, n, post, hm⟩ := Mark.exists_split (haligned.mpr hg) hone
    refine ⟨pre, n, post, hm, houtputs.trans ?_⟩
    rw [hm]
    exact Ledger.delivered_aligned _ _ _ _
  · have hk : (made.map Jump.kind).count k = _ := Mark.count_jumps k marks
    have htwo : (made.map Jump.kind).count k ≤ 2 := hk ▸ hcount k
    have hget : cycle.core.jumps.counters.get k = f.jumps.counters.get k +
        UInt8.ofNat ((made.map Jump.kind).count k) := by
      rw [hk, hjumps]
      exact Ledger.counters_enterAll k marks (Ledger.of f)
    refine ⟨htwo, hget, ?_⟩
    rw [hget, Ne, UInt8.add_eq_left, ofNat_eq_zero htwo, List.count_eq_zero, Classical.not_not,
      List.mem_map]

end NavArbiter

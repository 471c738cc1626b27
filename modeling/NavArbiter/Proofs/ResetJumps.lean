/-
# What resets log

On the gated filter a granted reset logs one jump of its kind, satellite height two, and a refused
one nothing (`Jumped`).  Writes log nothing, and only a start of flow on the ground aligns the
outputs.  Each request and each write of a controller has its lemma here, over a recorded core and
with the kinds of marks it leaves.
-/
import NavArbiter.Estimator.GatedFilter
import NavArbiter.Proofs.Recorder

namespace NavArbiter

/-- One entry if a request was granted, and none if it was refused. -/
def once {κ : Type} (granted : Bool) (k : κ) : List κ := if granted then [k] else []

@[simp] theorem count_once {κ : Type} [BEq κ] (granted : Bool) (k l : κ) :
    (once granted k).count l = if k == l then granted.toNat else 0 := by
  cases granted <;> simp [once, List.count_singleton]

@[simp] theorem mem_once {κ : Type} {granted : Bool} {k l : κ} :
    l ∈ once granted k ↔ granted = true ∧ l = k := by
  cases granted <;> simp [once]

theorem once_map {κ ι : Type} (f : κ → ι) (granted : Bool) (k : κ) :
    (once granted k).map f = once granted (f k) := by
  cases granted <;> rfl

variable {α : Type} [Scalar α]

/-! ## Resets of the gated filter -/

namespace GatedFilter

/-- A reset led from one core to another and logged jumps of these kinds, in this order. -/
def Jumped (f : GatedFilter α) (ks : List JumpKind) (f' : GatedFilter α) : Prop :=
  ∃ js : List (Jump α), js.map Jump.kind = ks ∧ Ledger.of f' = (Ledger.of f).enterAll (js.map .jump)

theorem Jumped.none (f : GatedFilter α) : Jumped f [] f := ⟨[], rfl, rfl⟩

theorem moveTo_jumped (f : GatedFilter α) (p : Vec2 α) (variance : α) :
    Jumped f [.horizontalPosition] (f.moveTo p variance) :=
  ⟨[.horizontalPosition (p.sub f.nav.position.horizontal)], rfl, rfl⟩

theorem setSpeed_jumped (f : GatedFilter α) (v : Vec2 α) (variance : α) :
    Jumped f [.horizontalVelocity] (f.setSpeed v variance) :=
  ⟨[.horizontalVelocity (v.sub f.nav.velocity.horizontal)], rfl, rfl⟩

theorem moveDownTo_jumped (f : GatedFilter α) (down variance : α) :
    Jumped f [.verticalPosition] (f.moveDownTo down variance) :=
  ⟨[.verticalPosition (down - f.nav.position.z)], rfl, rfl⟩

theorem resetPosition_jumped (f : GatedFilter α) (source : HorizontalSource) (h : Histories α) :
    let r := f.resetPosition source h
    Jumped f (once r.1 .horizontalPosition) r.2 := by
  dsimp only [resetPosition]
  split
  · split
    · exact moveTo_jumped _ _ _
    · exact .none f
  · split
    · exact moveTo_jumped _ _ _
    · exact .none f

theorem resetVelocity_jumped (f : GatedFilter α) (source : HorizontalSource) (h : Histories α) :
    let r := f.resetVelocity source h
    Jumped f (once r.1 .horizontalVelocity) r.2 := by
  dsimp only [resetVelocity]
  split
  · split
    · exact setSpeed_jumped _ _ _
    · exact .none f
  · split
    · exact setSpeed_jumped _ _ _
    · exact .none f

/-- Satellite height brings a vertical velocity along. -/
theorem resetHeight_jumped (f : GatedFilter α) (source : HeightSource) (h : Histories α) :
    let r := f.resetHeight source h
    ∃ descent, (descent = true → source = .gps) ∧
      Jumped f (once r.1 .verticalPosition ++ once descent .verticalVelocity) r.2 := by
  dsimp only [resetHeight]
  split
  · exact ⟨false, nofun, .none f⟩
  · next m _ =>
    split
    · next g _ _ =>
      exact ⟨true, fun _ => rfl, [.verticalPosition (m.down - f.nav.position.z),
        .verticalVelocity (g.velocity.z - f.nav.velocity.z)], rfl, rfl⟩
    · exact ⟨false, nofun, moveDownTo_jumped _ _ _⟩

theorem resetHeading_jumped (f : GatedFilter α) (field : Vec3 α) :
    let r := f.resetHeading field
    Jumped f (once r.1 .attitude) r.2 := by
  dsimp only [resetHeading]
  split
  · exact .none f
  · exact ⟨[_], rfl, rfl⟩

end GatedFilter

/-! ## Requests and writes -/

namespace Recorder

variable (r : Recorder α (GatedFilter α))

theorem logs_of_jumped {f : GatedFilter α} {ks : List JumpKind}
    (h : GatedFilter.Jumped r.core ks f) : Logs r (ks.map some) (r.observe f) := by
  obtain ⟨js, rfl, hl⟩ := h
  rw [List.map_map]
  exact .observe js hl

theorem askPosition_logs (source : HorizontalSource) (h : Histories α) :
    ∃ granted r', Estimator.askPosition r source h = ⟨granted, r', [.position source granted]⟩ ∧
      Logs r (once granted (some .horizontalPosition)) r' := by
  have hl := logs_of_jumped r (GatedFilter.resetPosition_jumped r.core source h)
  rw [once_map] at hl
  exact ⟨_, _, rfl, hl⟩

theorem askVelocity_logs (source : HorizontalSource) (h : Histories α) :
    ∃ granted r', Estimator.askVelocity r source h = ⟨granted, r', [.velocity source granted]⟩ ∧
      Logs r (once granted (some .horizontalVelocity)) r' := by
  have hl := logs_of_jumped r (GatedFilter.resetVelocity_jumped r.core source h)
  rw [once_map] at hl
  exact ⟨_, _, rfl, hl⟩

theorem askHeight_logs (source : HeightSource) (h : Histories α) :
    ∃ granted r' descent, Estimator.askHeight r source h =
        ⟨granted, r', [.height source granted]⟩ ∧ (descent = true → source = .gps) ∧
      Logs r (once granted (some .verticalPosition) ++ once descent (some .verticalVelocity))
        r' := by
  obtain ⟨descent, hd, hj⟩ := GatedFilter.resetHeight_jumped r.core source h
  have hl := logs_of_jumped r hj
  rw [List.map_append, once_map, once_map] at hl
  exact ⟨_, _, descent, rfl, hd, hl⟩

theorem askHeadingFromMag_logs (h : Histories α) :
    ∃ granted r' rs, Estimator.askHeadingFromMag r h = ⟨granted, r', rs⟩ ∧
      Logs r (once granted (some .attitude)) r' := by
  unfold Estimator.askHeadingFromMag
  cases h.mag.newest? with
  | none => exact ⟨false, r, [], rfl, .refl r⟩
  | some m =>
      have hl := logs_of_jumped r (GatedFilter.resetHeading_jumped r.core m.field)
      rw [once_map] at hl
      exact ⟨_, _, _, rfl, hl⟩

theorem setNav_logs (n : NavState α) : Logs r [] (Estimator.setNav r n) := .observe_nil rfl

theorem setHorizontalPosition_logs (p : Vec2 α) :
    Logs r [] (Estimator.setHorizontalPosition r p) := setNav_logs r _

theorem setHorizontalVelocity_logs (v : Vec2 α) :
    Logs r [] (Estimator.setHorizontalVelocity r v) := setNav_logs r _

theorem stop_logs : Logs r [] (Estimator.stop r) := setNav_logs r _

theorem setCovariance_logs (p : Covariance α) : Logs r [] (Estimator.setCovariance r p) :=
  .observe_nil rfl

theorem clearBlock_logs (first last : Nat) : Logs r [] (Estimator.clearBlock r first last) :=
  setCovariance_logs r _

theorem setVariance_logs (k : Component) (a : α) : Logs r [] (Estimator.setVariance r k a) :=
  setCovariance_logs r _

theorem refreshDeclination_logs : Logs r [] (Estimator.refreshDeclination r) := by
  refine .observe_nil ?_
  show Ledger.of r.core.refreshDeclination = _
  unfold GatedFilter.refreshDeclination
  dsimp only
  split <;> rfl

theorem turnTo_logs (yaw : α) : Logs r [some .attitude] (Vision.turnTo r yaw) := by
  have hn := setNav_logs r { r.core.nav with attitude := r.core.nav.attitude.withYaw yaw }
  exact hn.trans (.observe [.attitude _] rfl)

theorem seedVelocity_logs (x : Context α) (w : FlowSample α) :
    Logs r [] (Flow.seedVelocity x r w) :=
  (((setHorizontalVelocity_logs r _).still (clearBlock_logs _ _ _)).still
    (setVariance_logs _ _ _)).still (setVariance_logs _ _ _)

/-- Dropping what waits is no jump. -/
theorem dropJumps_marks : (Estimator.dropJumps r).marks = r.marks := by
  show r.marks ++ List.map _ (List.drop _ []) = r.marks
  rw [List.drop_nil]
  exact List.append_nil _

/-- Neither is applying it. -/
theorem applyJumps_marks : (Estimator.applyJumps r).marks = r.marks := by
  show (Estimator.dropJumps r).marks ++ List.map _ (List.drop _ []) = _
  rw [List.drop_nil, dropJumps_marks]
  exact List.append_nil _

/-- Dropping what waits and aligning the outputs is noted as one mark. -/
theorem alignOutputs_logs : Logs r [none] (Estimator.alignOutputs (Estimator.dropJumps r)) := by
  refine ⟨[.aligned (Estimator.nav r)], .refl _, ?_, rfl⟩
  show (Estimator.dropJumps r).marks ++ List.map _ (List.drop _ []) ++ _ = _
  rw [List.drop_nil, dropJumps_marks]
  exact congrArg (· ++ _) (List.append_nil _)

theorem seedOrigin_logs : Logs r [none] (Flow.seedOrigin r) := by
  have h₁ := setHorizontalPosition_logs r .zero
  have h₂ := (h₁.still (clearBlock_logs _ 7 8)).still (setVariance_logs _ .posNorth 0.0)
  have h₃ := h₂.still (setVariance_logs _ .posEast 0.0)
  exact h₃.trans (alignOutputs_logs _)

end Recorder

end NavArbiter

/-
# What a reset records

A reset that is granted records the jumps it makes: applied in their order, they take every copy of
the state from before it to the state after it.  It is made of acts that record one jump each:

    act                    jump                left without correlations
    horizontal position    new less old        north and east
    horizontal velocity    new less old        north and east
    vertical position      new less old        down
    vertical velocity      new less old        down
    attitude               new times old⁻¹     none, the covariance is kept

A jump of attitude is applied from the left, and `new · old⁻¹ · old` is `new` only if the inverse is
one.  It is the conjugate, so the old attitude has to be of unit length (`difference_mul`).  Then
so is the new one, being made of angles (`isUnit_ofAngles`).

Satellite height is two acts, every other reset is one.  `Displaced` goes on from one to the next
(`Displaced.trans`), within a reset as well as over any resets in a row (`displaced_performAll`).
-/
import Mathlib.Algebra.Quaternion
import NavArbiter.Control.Vision
import NavArbiter.Proofs.CovarianceMatrix
import NavArbiter.Proofs.Flight
import NavArbiter.Proofs.FlowStart

namespace NavArbiter

/-! ## Unit attitudes -/

namespace Attitude

/-- The quaternion that an attitude is. -/
def toQuaternion (q : Attitude ℝ) : Quaternion ℝ := ⟨q.w, q.i, q.j, q.k⟩

/-- An attitude of unit length, as rotations are. -/
def IsUnit (q : Attitude ℝ) : Prop := Quaternion.normSq q.toQuaternion = 1

theorem toQuaternion_injective {p q : Attitude ℝ} (h : p.toQuaternion = q.toQuaternion) :
    p = q := by
  cases p
  cases q
  cases h
  rfl

theorem toQuaternion_mul (p q : Attitude ℝ) :
    (p.mul q).toQuaternion = p.toQuaternion * q.toQuaternion := by
  ext <;> simp only [Quaternion.re_mul, Quaternion.imI_mul, Quaternion.imJ_mul,
    Quaternion.imK_mul] <;> rfl

theorem toQuaternion_inverse (q : Attitude ℝ) : q.inverse.toQuaternion = star q.toQuaternion := by
  ext <;> simp only [Quaternion.re_star, Quaternion.imI_star, Quaternion.imJ_star,
    Quaternion.imK_star] <;> rfl

theorem isUnit_iff {q : Attitude ℝ} :
    q.IsUnit ↔ q.w ^ 2 + q.i ^ 2 + q.j ^ 2 + q.k ^ 2 = 1 := by
  rw [IsUnit, Quaternion.normSq_def']
  rfl

theorem isUnit_identity : (identity : Attitude ℝ).IsUnit := by
  rw [isUnit_iff]
  show (1.0 : ℝ) ^ 2 + 0.0 ^ 2 + 0.0 ^ 2 + 0.0 ^ 2 = 1
  norm_num

/-- The rotation from one attitude to another leads there. -/
theorem difference_mul {old : Attitude ℝ} (unit : old.IsUnit) (new : Attitude ℝ) :
    (new.difference old).mul old = new := by
  apply toQuaternion_injective
  rw [difference, toQuaternion_mul, toQuaternion_mul, toQuaternion_inverse, mul_assoc,
    Quaternion.star_mul_self, unit, Quaternion.coe_one, mul_one]

/-- Roll, pitch and yaw are turns about one axis each, so the length is a product. -/
theorem isUnit_ofAngles (roll pitch yaw : ℝ) : (ofAngles roll pitch yaw).IsUnit := by
  have length : ∀ sr cr sp cp sy cy : ℝ,
      (cr * cp * cy + sr * sp * sy) ^ 2 + (sr * cp * cy - cr * sp * sy) ^ 2 +
        (cr * sp * cy + sr * cp * sy) ^ 2 + (cr * cp * sy - sr * sp * cy) ^ 2 =
      (sr ^ 2 + cr ^ 2) * (sp ^ 2 + cp ^ 2) * (sy ^ 2 + cy ^ 2) := by
    intros
    ring
  rw [isUnit_iff]
  refine (length _ _ _ _ _ _).trans ?_
  have circle : ∀ a : ℝ, Scalar.sin a ^ 2 + Scalar.cos a ^ 2 = 1 := Real.sin_sq_add_cos_sq
  rw [circle, circle, circle, mul_one, mul_one]

theorem isUnit_withYaw (q : Attitude ℝ) (yaw : ℝ) : (q.withYaw yaw).IsUnit := isUnit_ofAngles _ _ _

end Attitude

theorem Vec2.add_sub (v w : Vec2 ℝ) : v.add (w.sub v) = w := by
  cases v
  cases w
  simp only [add, sub, add_sub_cancel]

/-- A covariance is known by its entries. -/
theorem Covariance.ext_get {α : Type} {p q : Covariance α} (h : ∀ i j, p.get i j = q.get i j) :
    p = q := by
  cases p
  cases q
  congr
  exact Vector.ext fun i hi => Vector.ext fun j hj => h ⟨i, hi⟩ ⟨j, hj⟩

/-! ## Resets -/

/-- A reset with what it is made from.  The take-over of yaw by vision is one, though a controller
makes it. -/
inductive Reset (α : Type) where
  | position (source : HorizontalSource) (samples : Histories α)
  | velocity (source : HorizontalSource) (samples : Histories α)
  | height (source : HeightSource) (samples : Histories α)
  | heading (field : Vec3 α)
  | visionYaw (x : Context α) (s : Standing α)

/-- The components of velocity and position that a reset writes. -/
def Reset.components {α : Type} : Reset α → List Component
  | .position _ _ => [.posNorth, .posEast]
  | .velocity _ _ => [.velNorth, .velEast]
  | .height .gps _ => [.posDown, .velDown]
  | .height _ _ => [.posDown]
  | .heading _ => []
  | .visionYaw _ _ => []

namespace GatedFilter

/-- The answer to a reset, and the filter after it.  A take-over of yaw counts as granted if it is
announced. -/
def perform {α : Type} [Scalar α] (f : GatedFilter α) : Reset α → Bool × GatedFilter α
  | .position source samples => f.resetPosition source samples
  | .velocity source samples => f.resetVelocity source samples
  | .height source samples => f.resetHeight source samples
  | .heading field => f.resetHeading field
  | .visionYaw x s =>
      let o := Vision.takeYaw x s f
      (!o.events.isEmpty, o.core)

/-- From one filter to another these jumps were recorded, which take copies of the first state to
the second, and these components were written, each left without correlations. -/
structure Displaced (f : GatedFilter ℝ) (written : List Component) (jumps : List (Jump ℝ))
    (f' : GatedFilter ℝ) : Prop where
  /-- The log is the old one with these jumps appended to the pending ones, in this order, and each
  of them counted for its kind. -/
  recorded : f'.jumps = jumps.foldl JumpLog.record f.jumps
  moved : ∀ (outputs : History (OutputSample ℝ)) (i : Nat) (t : Time),
    outputs.get? i = some (f.nav.output t) →
      (Jump.applyAll jumps outputs).get? i = some (f'.nav.output t)
  uncorrelated : ∀ k ∈ written, f'.covariance.Uncorrelated k.state
  /-- Entries of the covariance outside the rows and columns of these components are kept. -/
  entries : ∀ i j, (∀ k ∈ written, i ≠ k.state ∧ j ≠ k.state) →
    f'.covariance.get i j = f.covariance.get i j
  components : ∀ k, k ∉ written → f'.nav.get k = f.nav.get k
  outputs : f'.outputs = f.outputs
  unit : f.nav.attitude.IsUnit → f'.nav.attitude.IsUnit

namespace Displaced

variable {f f' f'' : GatedFilter ℝ} {ks ls : List Component} {js is : List (Jump ℝ)}

theorem refl (f : GatedFilter ℝ) : Displaced f [] [] f where
  recorded := rfl
  moved _ _ _ copy := copy
  uncorrelated := nofun
  entries _ _ _ := rfl
  components _ _ := rfl
  outputs := rfl
  unit h := h

/-- What the first leaves without correlations is either left alone by the second or cleared
again. -/
theorem trans (h : Displaced f ks js f') (h' : Displaced f' ls is f'') :
    Displaced f (ks ++ ls) (js ++ is) f'' where
  recorded := by rw [List.foldl_append, ← h.recorded, h'.recorded]
  moved outputs i t copy := by
    rw [Jump.applyAll, List.foldl_append]
    exact h'.moved _ i t (h.moved outputs i t copy)
  uncorrelated k hk := by
    rcases List.mem_append.mp hk with first | last
    · intro j hj
      by_cases again : ∃ l ∈ ls, k.state = l.state ∨ j = l.state
      · obtain ⟨l, hl, same | other⟩ := again
        · rw [same] at hj ⊢
          exact h'.uncorrelated l hl j hj
        · subst other
          exact (h'.uncorrelated l hl k.state hj.symm).symm
      · push Not at again
        rw [h'.entries k.state j fun l hl => again l hl,
          h'.entries j k.state fun l hl => (again l hl).symm]
        exact h.uncorrelated k first j hj
    · exact h'.uncorrelated k last
  entries i j outside := by
    rw [h'.entries i j fun k hk => outside k (List.mem_append_right _ hk)]
    exact h.entries i j fun k hk => outside k (List.mem_append_left _ hk)
  components k hk := by
    rw [List.mem_append, not_or] at hk
    exact (h'.components k hk.2).trans (h.components k hk.1)
  outputs := h'.outputs.trans h.outputs
  unit u := h'.unit (h.unit u)

/-- One jump that takes the first state to the second. -/
theorem moved_of_apply {j : Jump ℝ} (h : ∀ t, j.apply (f.nav.output t) = f'.nav.output t)
    (outputs : History (OutputSample ℝ)) (i : Nat) (t : Time)
    (copy : outputs.get? i = some (f.nav.output t)) :
    (Jump.applyAll [j] outputs).get? i = some (f'.nav.output t) := by
  show (outputs.samples.map j.apply)[i]? = _
  rw [List.getElem?_map, show outputs.samples[i]? = some (f.nav.output t) from copy,
    Option.map_some, h t]

/-! ## Single acts -/

/-- A block of one or two components written anew, with one variance. -/
theorem isolate (f : GatedFilter ℝ) {first last : Component}
    (near : first.state.val ≤ last.state.val ∧ last.state.val ≤ first.state.val + 1)
    {nav : NavState ℝ} (variance : ℝ) {j : Jump ℝ} {ks : List Component}
    (block : ∀ k, k ∈ ks ↔ k = first ∨ k = last)
    (components : ∀ k, k ∉ ks → nav.get k = f.nav.get k)
    (attitude : nav.attitude = f.nav.attitude)
    (apply : ∀ t, j.apply (f.nav.output t) = nav.output t) :
    Displaced f ks [j] (({ f with nav := nav }.isolate first last variance).recordJump j) where
  recorded := rfl
  moved := moved_of_apply apply
  uncorrelated k hk := by
    have inside : first.state.val ≤ k.state.val ∧ k.state.val ≤ last.state.val := by
      rcases (block k).mp hk with rfl | rfl
      · exact ⟨le_rfl, near.1⟩
      · exact ⟨near.1, le_rfl⟩
    exact ((f.covariance.uncorrelated_clearBlock inside).setVariance _ _).setVariance _ _
  entries i l outside := by
    refine (f.covariance.get_isolated _ _ near variance i l).trans (if_neg fun touches => ?_)
    -- a number in the block is that of one of the two components
    have written : ∀ n : Fin stateDim, first.state.val ≤ n.val ∧ n.val ≤ last.state.val →
        n = first.state ∨ n = last.state := fun n hn => by
      rw [Fin.ext_iff, Fin.ext_iff]
      omega
    have ends := outside first ((block first).mpr (Or.inl rfl))
    have ends' := outside last ((block last).mpr (Or.inr rfl))
    rcases touches with row | column
    · exact (written i row).elim ends.1 ends'.1
    · exact (written l column).elim ends.2 ends'.2
  components := components
  outputs := rfl
  unit u := by
    show nav.attitude.IsUnit
    rw [attitude]
    exact u

theorem moveTo (f : GatedFilter ℝ) (p : Vec2 ℝ) (variance : ℝ) :
    Displaced f [.posNorth, .posEast] [.horizontalPosition (p.sub f.nav.position.horizontal)]
      (f.moveTo p variance) := by
  refine isolate f (by decide) variance (by simp) (fun k hk => ?_) rfl fun t => ?_
  · cases k with
    | posNorth | posEast => simp at hk
    | _ => rfl
  · simp only [Jump.apply, NavState.output, Vec2.add_sub, NavState.withHorizontalPosition]

theorem setSpeed (f : GatedFilter ℝ) (v : Vec2 ℝ) (variance : ℝ) :
    Displaced f [.velNorth, .velEast] [.horizontalVelocity (v.sub f.nav.velocity.horizontal)]
      (f.setSpeed v variance) := by
  refine isolate f (by decide) variance (by simp) (fun k hk => ?_) rfl fun t => ?_
  · cases k with
    | velNorth | velEast => simp at hk
    | _ => rfl
  · simp only [Jump.apply, NavState.output, Vec2.add_sub, NavState.withHorizontalVelocity]

theorem moveDownTo (f : GatedFilter ℝ) (down variance : ℝ) :
    Displaced f [.posDown] [.verticalPosition (down - f.nav.position.z)]
      (f.moveDownTo down variance) := by
  refine isolate f (by decide) variance (by simp) (fun k hk => ?_) rfl fun t => ?_
  · cases k with
    | posDown => simp at hk
    | _ => rfl
  · simp only [Jump.apply, NavState.output, NavState.set, add_sub_cancel]

theorem setDescent (f : GatedFilter ℝ) (speed variance : ℝ) :
    Displaced f [.velDown] [.verticalVelocity (speed - f.nav.velocity.z)]
      (f.setDescent speed variance) := by
  refine isolate f (by decide) variance (by simp) (fun k hk => ?_) rfl fun t => ?_
  · cases k with
    | velDown => simp at hk
    | _ => rfl
  · simp only [Jump.apply, NavState.output, NavState.set, add_sub_cancel]

/-- The filter turned, whatever becomes of the field and the variances of attitude. -/
theorem turn (f : GatedFilter ℝ) (unit : f.nav.attitude.IsUnit) {new : Attitude ℝ}
    (hnew : new.IsUnit) (field variances : Vec3 ℝ) :
    Displaced f [] [.attitude (new.difference f.nav.attitude)] ({ f with
      nav := { f.nav with attitude := new, magEarth := field }
      rotationVariances := variances }.recordJump
        (.attitude (new.difference f.nav.attitude))) where
  recorded := rfl
  moved := moved_of_apply fun t => by
    simp only [Jump.apply, NavState.output, Attitude.difference_mul unit]
    rfl
  uncorrelated := nofun
  entries _ _ _ := rfl
  components k _ := by cases k <;> rfl
  outputs := rfl
  unit _ := hnew

/-- Where no component was written, the covariance is as it was. -/
theorem covariance_eq (h : Displaced f [] js f') : f'.covariance = f.covariance :=
  Covariance.ext_get fun i j => h.entries i j nofun

end Displaced

/-! ## Answers -/

/-- What a filter answers to a reset that writes these components. -/
inductive Answered (f : GatedFilter ℝ) (written : List Component) : Bool × GatedFilter ℝ → Prop
  | refused : Answered f written (false, f)
  | granted {jumps : List (Jump ℝ)} {f' : GatedFilter ℝ} : Displaced f written jumps f' →
      Answered f written (true, f')

namespace Answered

variable {f : GatedFilter ℝ} {written : List Component} {answer : Bool × GatedFilter ℝ}

theorem displaced (h : Answered f written answer) (granted : answer.1 = true) :
    ∃ jumps, Displaced f written jumps answer.2 := by
  cases h with
  | refused => cases granted
  | granted displaced => exact ⟨_, displaced⟩

theorem covariance_eq (h : Answered f written answer) (granted : answer.1 = true)
    (none : written = []) : answer.2.covariance = f.covariance := by
  obtain ⟨jumps, displaced⟩ := h.displaced granted
  rw [none] at displaced
  exact displaced.covariance_eq

theorem unchanged (h : Answered f written answer) (refused : answer.1 = false) :
    answer.2 = f := by
  cases h with
  | refused => rfl
  | granted => cases refused

end Answered

variable (f : GatedFilter ℝ)

theorem answered_resetPosition (source : HorizontalSource) (samples : Histories ℝ) :
    Answered f [.posNorth, .posEast] (f.resetPosition source samples) := by
  unfold resetPosition
  cases source <;> dsimp only <;> split
  · exact .granted (.moveTo f _ _)
  · exact .refused
  · exact .granted (.moveTo f _ _)
  · exact .refused

theorem answered_resetVelocity (source : HorizontalSource) (samples : Histories ℝ) :
    Answered f [.velNorth, .velEast] (f.resetVelocity source samples) := by
  unfold resetVelocity
  cases source <;> dsimp only <;> split
  · exact .granted (.setSpeed f _ _)
  · exact .refused
  · exact .granted (.setSpeed f _ _)
  · exact .refused

/-- Satellite height resets the descent along with the height. -/
theorem answered_resetHeight (source : HeightSource) (samples : Histories ℝ) :
    Answered f (Reset.height source samples).components (f.resetHeight source samples) := by
  unfold resetHeight
  cases source with
  | gps =>
      show Answered f [.posDown, .velDown] _
      cases newest : samples.gps.newest? with
      | none =>
          simp only [heightMeasurement, sampleAt, newest, Option.map_none]
          exact .refused
      | some g =>
          simp only [heightMeasurement, sampleAt, newest, Option.map_some]
          exact .granted ((Displaced.moveDownTo f _ _).trans (.setDescent _ _ _))
  | baro | range | vision =>
      show Answered f [.posDown] _
      split
      · exact .refused
      · exact .granted (.moveDownTo f _ _)

variable {f}

theorem answered_resetHeading (unit : f.nav.attitude.IsUnit) (field : Vec3 ℝ) :
    Answered f [] (f.resetHeading field) := by
  unfold resetHeading
  split
  · exact .refused
  · exact .granted (.turn f unit (Attitude.isUnit_withYaw _ _) _ _)

theorem answered_takeYaw (unit : f.nav.attitude.IsUnit) (x : Context ℝ) (s : Standing ℝ) :
    Answered f [] (f.perform (.visionYaw x s)) := by
  unfold perform Vision.takeYaw
  dsimp only
  split
  · split
    · exact .refused
    · exact .granted
        (.turn f unit (Attitude.isUnit_withYaw _ _) f.nav.magEarth f.rotationVariances)
  · exact .refused

theorem answered_perform (unit : f.nav.attitude.IsUnit) (r : Reset ℝ) :
    Answered f r.components (f.perform r) := by
  cases r with
  | position source samples => exact f.answered_resetPosition source samples
  | velocity source samples => exact f.answered_resetVelocity source samples
  | height source samples => exact f.answered_resetHeight source samples
  | heading field => exact answered_resetHeading unit field
  | visionYaw x s => exact answered_takeYaw unit x s

/-! ## The law -/

/-- Every reset of every filter with a unit attitude, whatever it is made from: if it is granted,
the jumps it recorded take each output that shows the state before it to one that shows the state
after it, the components it wrote are left without correlations, and nothing else of the components
or of the covariance has changed; if it is refused, nothing has changed at all. -/
theorem reset_recorded (f : GatedFilter ℝ) (unit : f.nav.attitude.IsUnit) (r : Reset ℝ) :
    let answer := f.perform r
    (answer.1 = true → ∃ jumps, Displaced f r.components jumps answer.2) ∧
    (answer.1 = true → r.components = [] → answer.2.covariance = f.covariance) ∧
    (answer.1 = false → answer.2 = f) := by
  have answered := answered_perform unit r
  exact ⟨answered.displaced, answered.covariance_eq, answered.unchanged⟩

/-- A fix resets height and descent, and the two jumps take an output along. -/
theorem reset_recorded_fix :
    let f : GatedFilter ℝ := .levelled
    let fix : GpsSample ℝ := ⟨900000, .zero, 12.0, .zero, 1.0, 1.0, 0.5⟩
    let samples : Histories ℝ :=
      { Histories.empty Histories.defaultCapacity Histories.defaultCapacity_pos with
        gps := historyOf [fix] }
    let r : Reset ℝ := .height .gps samples
    f.nav.attitude.IsUnit ∧ (f.perform r).1 = true ∧
      ∃ jumps, f.Displaced [.posDown, .velDown] jumps (f.perform r).2 := by
  intro f fix samples r
  have granted : (f.perform r).1 = true := rfl
  exact ⟨Attitude.isUnit_identity, granted,
    (reset_recorded f Attitude.isUnit_identity r).1 granted⟩

/-! ## Resets in a row -/

/-- The filter after resets, one after another, however each is answered. -/
def performAll {α : Type} [Scalar α] (f : GatedFilter α) (rs : List (Reset α)) : GatedFilter α :=
  rs.foldl (fun g r => (g.perform r).2) f

/-- Outputs that show the state can be kept waiting for any number of resets: what was recorded on
the way takes them to the state at the end. -/
theorem displaced_performAll : ∀ {f : GatedFilter ℝ} (rs : List (Reset ℝ)),
    f.nav.attitude.IsUnit → ∃ written jumps, Displaced f written jumps (f.performAll rs)
  | f, [], _ => ⟨[], [], .refl f⟩
  | f, r :: rs, unit => by
      have answered := answered_perform unit r
      show ∃ written jumps, Displaced f written jumps ((f.perform r).2.performAll rs)
      cases granted : (f.perform r).1 with
      | false =>
          rw [answered.unchanged granted]
          exact displaced_performAll rs unit
      | true =>
          obtain ⟨jumps, first⟩ := answered.displaced granted
          obtain ⟨written, more, rest⟩ := displaced_performAll rs (first.unit unit)
          exact ⟨_, _, first.trans rest⟩

end GatedFilter

end NavArbiter

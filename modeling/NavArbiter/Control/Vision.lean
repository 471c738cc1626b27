/-
# Vision

Vision takes position and height over together, and yaw on its own.  Position starts only when
the core granted all three resets; yaw is set directly from the newest sample.  Neither is ever
given back.
-/
import NavArbiter.Control.Outcome

namespace NavArbiter.Vision

variable {α C : Type} [Scalar α] [Estimator α C]

/-- The newest vision sample is recent. -/
def fresh (x : Context α) : Bool :=
  x.isFresh x.histories.vision (x.settings.heightMaxAge .vision)

/-- Position is to be taken over. -/
def wantsPosition (x : Context α) : Bool :=
  x.settings.allowed.visionPosition && !x.before.visionPosition && x.before.tiltAligned
    && x.before.yawAligned && fresh x

/-- Yaw is to be taken over. -/
def wantsYaw (x : Context α) : Bool :=
  x.settings.allowed.visionYaw && !x.before.visionYaw && x.before.tiltAligned && fresh x

/-- Takes position and height over, once position, velocity and height were all reset. -/
def takePosition (x : Context α) (s : Standing α) (c : C) : Outcome α C :=
  if wantsPosition x then
    let p := Estimator.askPosition c .vision x.histories
    let v := Estimator.askVelocity p.core .vision x.histories
    let h := Estimator.askHeight v.core .vision x.histories
    let requests := p.requests ++ v.requests ++ h.requests
    if p.granted && v.granted && h.granted then
      { standing := s.mapStatus fun t => { t with height := .vision, visionPosition := true }
        core := h.core
        events := [.visionPositionStarted]
        requests := requests }
    else ⟨s, h.core, [.visionPositionResetFailed], requests⟩
  else .unchanged s c

/-- The core turned to a yaw, with its roll and pitch kept and the jump logged. -/
def turnTo (c : C) (yaw : α) : C :=
  let nav := Estimator.nav c
  let new := nav.attitude.withYaw yaw
  Estimator.recordJump (Estimator.setNav c { nav with attitude := new })
    (.attitude (new.difference nav.attitude))

/-- Takes yaw over from the newest sample. -/
def takeYaw (x : Context α) (s : Standing α) (c : C) : Outcome α C :=
  if wantsYaw x then
    match x.histories.vision.newest? with
    | none => .unchanged s c
    | some v =>
        let yaw := v.attitude.angles.yaw
        let before := (Estimator.nav c).attitude.angles.yaw
        { standing := s.mapStatus fun t => { t with yawAligned := true }.claimVisionYaw
          core := turnTo c yaw
          events := [.visionYawStarted (Scalar.wrapAngle (yaw - before))]
          requests := [] }
  else .unchanged s c

/-- The vision controller. -/
def control (x : Context α) (s : Standing α) (c : C) : Outcome α C :=
  (takePosition x s c).andThen (takeYaw x)

end NavArbiter.Vision

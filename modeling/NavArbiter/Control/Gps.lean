/-
# Satellite navigation

It starts after alignment, once the origin is known and the last failure lies far enough back.
Unless flow is in use, a start resets position and velocity.  When neither position nor velocity
was corrected for too long, the core is reset to the measurement if there is a recent one, and
else the last position is held.
-/
import NavArbiter.Control.Outcome

namespace NavArbiter.Gps

variable {α C : Type} [Scalar α] [Estimator α C]

/-- The newest fix is recent. -/
def fresh (x : Context α) : Bool :=
  x.isFresh x.histories.gps x.settings.timeouts.gpsDataMaxAge

/-- Satellite navigation can start, up to the alignment of yaw. -/
def wantsStart (x : Context α) (s : Standing α) (c : C) : Bool :=
  x.before.tiltAligned && fresh x && Estimator.originSet c
    && (s.health.sensor .gps).canRetry x.clock.now x.settings.timeouts.gpsFailCooldown

/-- Neither position nor velocity was corrected for too long. -/
def timedOut (x : Context α) (s : Standing α) : Bool :=
  let limit := x.settings.timeouts.gpsFusionTimeout
  decide (limit < s.health.since .position x.clock.now)
    && decide (limit < s.health.since .velocity x.clock.now)

/-- Resets position and then velocity, and gives up on velocity if position was refused. -/
def resetBoth (x : Context α) (c : C) : Reply C :=
  let p := Estimator.askPosition c .gps x.histories
  if p.granted then
    let v := Estimator.askVelocity p.core .gps x.histories
    ⟨v.granted, v.core, p.requests ++ v.requests⟩
  else p

/-- Starts satellite navigation with yaw aligned. -/
def activate (x : Context α) (s : Standing α) (c : C) : Outcome α C :=
  let started := s.mapStatus fun t => { t with gps := true }
  if x.before.flow then ⟨started, c, [.gpsStarted], []⟩
  else
    let r := resetBoth x c
    if r.granted then
      ⟨started.mapHealth fun h => h.restartHorizontal x.clock.now, r.core, [.gpsStarted],
        r.requests⟩
    else
      ⟨s.mapHealth fun h => h.recordFailure .gps x.clock.now, r.core, [.gpsActivationFailed],
        r.requests⟩

/-- Starts satellite navigation if yaw is, or can be, aligned. -/
def start (x : Context α) (s : Standing α) (c : C) : Outcome α C :=
  let a := Alignment.ofMag x s c
  let aligned : Outcome α C := ⟨a.standing, a.core, [], a.requests⟩
  if a.standing.status.yawAligned then aligned.andThen (activate x) else aligned

/-- Gives satellite navigation up and holds the position. -/
def giveUp (s : Standing α) (c : C) : Outcome α C :=
  let anchor := (Estimator.nav c).position.horizontal
  { standing := { s.mapStatus fun t => { t with gps := false } with anchor := anchor }
    core := Estimator.stop c
    events := [.gpsLost anchor]
    requests := [] }

/-- Resets velocity and position to the newest fix. -/
def recover (x : Context α) (s : Standing α) (c : C) : Outcome α C :=
  let v := Estimator.askVelocity c .gps x.histories
  let p := Estimator.askPosition v.core .gps x.histories
  let requests := v.requests ++ p.requests
  if v.granted && p.granted then
    ⟨s.mapHealth fun h => h.restartHorizontal x.clock.now, p.core, [.gpsResetToMeasurement],
      requests⟩
  else ⟨s, p.core, [.gpsResetFailed], requests⟩

/-- The satellite navigation controller. -/
def control (x : Context α) (s : Standing α) (c : C) : Outcome α C :=
  if x.settings.allowed.gps then
    if x.before.gps then
      if !x.before.flow && timedOut x s then
        if fresh x then recover x s c else giveUp s c
      else .unchanged s c
    else if wantsStart x s c then start x s c
    else .unchanged s c
  else if x.before.gps then
    ⟨s.mapStatus fun t => { t with gps := false }, c, [.gpsDisabled], []⟩
  else .unchanged s c

end NavArbiter.Gps

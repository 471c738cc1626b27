/-
# Fusing the active sources

Once a cycle, after the arbitration, the core takes from the histories what the status allows:
for each kind of measurement the sample at the fusion horizon, if it is newer than the last one
taken.  A sample is taken once, whether its correction is accepted or not.  Successful fusions are
noted in the health record.

The seven kinds follow one another as steps of the same shape, so each can be studied alone.
-/
import NavArbiter.Estimator.GatedFilter
import NavArbiter.Health
import NavArbiter.Status

namespace NavArbiter

/-- The core and the health record that fusion changes. -/
structure Fused (α : Type) where
  core : GatedFilter α
  health : Health

/-- What a fusion step looks at. -/
structure FusionInput (α : Type) where
  status : Status
  histories : Histories α
  horizon : Time
  now : Time

/-- The sample at the horizon, if it is newer than the last one taken. -/
def History.unseen? {β : Type} [Timed β] (h : History β) (horizon : Time)
    (last : Option Time) : Option β :=
  match h.near? horizon with
  | none => none
  | some x =>
      match last with
      | none => some x
      | some t => if time x ≤ t then none else some x

namespace Fused

variable {α : Type} [Scalar α]

/-- Position and velocity from a satellite fix. -/
def takeGps (i : FusionInput α) (s : Fused α) : Fused α :=
  if !i.status.gps then s else
  match i.histories.gps.unseen? i.horizon s.core.consumed.gps with
  | none => s
  | some g =>
      let posVariance := g.horizontalAccuracy * g.horizontalAccuracy
      let velVariance := g.speedAccuracy * g.speedAccuracy
      let core := { s.core with consumed := { s.core.consumed with gps := some g.time } }
      let (pn, core) := core.correct .posNorth g.position.x posVariance
      let (pe, core) := core.correct .posEast g.position.y posVariance
      let (vn, core) := core.correct .velNorth g.velocity.x velVariance
      let (ve, core) := core.correct .velEast g.velocity.y velVariance
      let (vd, core) := core.correct .velDown g.velocity.z velVariance
      let core := ((((core.recordVerdict .posNorth pn).recordVerdict .posEast pe).recordVerdict
        .velNorth vn).recordVerdict .velEast ve).recordVerdict .velDown vd
      let health := if pn.accepted && pe.accepted then
        { s.health with lastPosition := some i.now } else s.health
      let health := if vn.accepted && ve.accepted then
        { health with lastVelocity := some i.now } else health
      let health := if pn.accepted || vn.accepted then
        health.recordFusion .gps i.now else health
      ⟨core, health⟩

/-- Position from vision. -/
def takeVision (i : FusionInput α) (s : Fused α) : Fused α :=
  if !i.status.visionPosition then s else
  match i.histories.vision.unseen? i.horizon s.core.consumed.vision with
  | none => s
  | some v =>
      let variance := v.positionError * v.positionError
      let core := { s.core with consumed := { s.core.consumed with vision := some v.time } }
      let (pn, core) := core.correct .posNorth v.position.x variance
      let (pe, core) := core.correct .posEast v.position.y variance
      let core := (core.recordVerdict .posNorth pn).recordVerdict .posEast pe
      let health := if pn.accepted && pe.accepted then
        { s.health with lastPosition := some i.now }.recordFusion .vision i.now else s.health
      ⟨core, health⟩

/-- Terrain height from the range finder, whatever the status. -/
def takeRange (i : FusionInput α) (s : Fused α) : Fused α :=
  match i.histories.range.unseen? i.horizon s.core.consumed.range with
  | none => s
  | some r =>
      let core := { s.core with
        consumed := { s.core.consumed with range := some r.time }
        terrain := s.core.nav.position.z + r.distance * s.core.nav.attitude.tiltCosine }
      ⟨core, { s.health with lastTerrain := some i.now }⟩

/-- Optical flow counts as fused if its quality and interval allow it. -/
def takeFlow (i : FusionInput α) (s : Fused α) : Fused α :=
  if !i.status.flow then s else
  match i.histories.flow.unseen? i.horizon s.core.consumed.flow with
  | none => s
  | some w =>
      let core := { s.core with consumed := { s.core.consumed with flow := some w.time } }
      let health := if s.core.flowMinQuality ≤ w.quality ∧ 0.0 < w.interval then
        s.health.recordFusion .flow i.now else s.health
      ⟨core, health⟩

/-- Height from the selected source. -/
def takeHeight (i : FusionInput α) (s : Fused α) : Fused α :=
  match s.core.heightMeasurement i.status.height i.histories (some i.horizon) with
  | none => s
  | some m =>
      let fresh := match s.core.consumed.height with
        | none => true
        | some t => decide (t < m.time)
      if !fresh then s else
      let core := { s.core with consumed := { s.core.consumed with height := some m.time } }
      let (v, core) := core.correct .posDown m.down m.variance
      let core := core.recordVerdict .posDown v
      let health := if v.accepted then
        { s.health with lastHeight := some i.now }.recordFusion i.status.height.sensor i.now
        else s.health
      ⟨core, health⟩

/-- The magnetometer counts as fused while a mode is in force. -/
def takeMag (i : FusionInput α) (s : Fused α) : Fused α :=
  if !(i.status.magHeading || i.status.magThreeAxis) then s else
  match i.histories.mag.unseen? i.horizon s.core.consumed.mag with
  | none => s
  | some m =>
      ⟨{ s.core with consumed := { s.core.consumed with mag := some m.time } },
       s.health.recordFusion .mag i.now⟩

/-- Airspeed counts as fused in the air, if it is positive. -/
def takeAirspeed (i : FusionInput α) (s : Fused α) : Fused α :=
  if !i.status.inAir then s else
  match i.histories.airspeed.unseen? i.horizon s.core.consumed.airspeed with
  | none => s
  | some a =>
      let core := { s.core with consumed := { s.core.consumed with airspeed := some a.time } }
      let health := if 0.0 < a.trueAirspeed then
        s.health.recordFusion .airspeed i.now else s.health
      ⟨core, health⟩

end Fused

/-- Fuses every source that the status allows. -/
def GatedFilter.fuseActive {α : Type} [Scalar α] (f : GatedFilter α) (h : Health)
    (i : FusionInput α) : Fused α :=
  Fused.mk f h |>.takeGps i |>.takeVision i |>.takeRange i |>.takeFlow i |>.takeHeight i
    |>.takeMag i |>.takeAirspeed i

end NavArbiter

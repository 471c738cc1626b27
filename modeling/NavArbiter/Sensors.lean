/-
# One thing per sensor

`PerSensor F α` holds an `F` of each sensor's sample type.  The histories that the arbitration
reads, the inboxes that the drivers fill and the samples of one log entry are three such
families.
-/
import NavArbiter.Inbox
import NavArbiter.Sample

namespace NavArbiter

/-- An `F` for the samples of each sensor. -/
structure PerSensor (F : Type → Type) (α : Type) where
  gps : F (GpsSample α)
  baro : F (BaroSample α)
  range : F (RangeSample α)
  vision : F (VisionSample α)
  flow : F (FlowSample α)
  mag : F (MagSample α)
  airspeed : F (AirspeedSample α)

/-- The sample histories of all sensors. -/
abbrev Histories (α : Type) := PerSensor History α

/-- The hand-over queues of all sensors. -/
abbrev Inboxes (α : Type) := PerSensor Inbox α

/-- At most one new sample of each sensor. -/
abbrev Measurements (α : Type) := PerSensor Option α

variable {α : Type}

namespace Histories

/-- How many samples a history keeps unless told otherwise. -/
def defaultCapacity : Nat := 12

/-- Empty histories of one positive capacity. -/
def empty (capacity : Nat := defaultCapacity) (h : 0 < capacity := by decide) :
    Histories α where
  gps := .empty capacity h
  baro := .empty capacity h
  range := .empty capacity h
  vision := .empty capacity h
  flow := .empty capacity h
  mag := .empty capacity h
  airspeed := .empty capacity h

end Histories

namespace Inboxes

/-- Empty inboxes of one positive capacity. -/
def empty (capacity : Nat) (h : 0 < capacity) : Inboxes α where
  gps := .empty capacity h
  baro := .empty capacity h
  range := .empty capacity h
  vision := .empty capacity h
  flow := .empty capacity h
  mag := .empty capacity h
  airspeed := .empty capacity h

/-- The inbox with a sample queued, if there is one. -/
def queue {β : Type} (b : Inbox β) : Option β → Inbox β
  | some x => b.push x
  | none => b

/-- The inboxes with the new samples queued. -/
def queueAll (b : Inboxes α) (m : Measurements α) : Inboxes α where
  gps := queue b.gps m.gps
  baro := queue b.baro m.baro
  range := queue b.range m.range
  vision := queue b.vision m.vision
  flow := queue b.flow m.flow
  mag := queue b.mag m.mag
  airspeed := queue b.airspeed m.airspeed

/-- The inboxes after they were drained. -/
def drained (b : Inboxes α) : Inboxes α where
  gps := b.gps.drained
  baro := b.baro.drained
  range := b.range.drained
  vision := b.vision.drained
  flow := b.flow.drained
  mag := b.mag.drained
  airspeed := b.airspeed.drained

/-- The histories after the waiting samples were pushed into them. -/
def drainInto (b : Inboxes α) (h : Histories α) : Histories α where
  gps := b.gps.drainInto h.gps
  baro := b.baro.drainInto h.baro
  range := b.range.drainInto h.range
  vision := b.vision.drainInto h.vision
  flow := b.flow.drainInto h.flow
  mag := b.mag.drainInto h.mag
  airspeed := b.airspeed.drainInto h.airspeed

/-- How many samples are waiting. -/
def size (b : Inboxes α) : Nat :=
  b.gps.size + b.baro.size + b.range.size + b.vision.size + b.flow.size + b.mag.size
    + b.airspeed.size

end Inboxes

end NavArbiter

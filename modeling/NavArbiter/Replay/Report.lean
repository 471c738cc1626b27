/-
# The report of a replay

What a replay prints: a line per event, and the summary.  All keys are in alphabetical order.
-/
import NavArbiter.Event.Json
import NavArbiter.Jump.Json
import NavArbiter.Replay.Run
import NavArbiter.Settings.Json
import NavArbiter.Status.Json

namespace NavArbiter

open Json

/-- Why a log has no report. -/
inductive ReportFailure where
  | fault (fault : Fault)
  | replay (failure : ReplayFailure Float)

/-- The events and the summary of a replay. -/
structure ReplayReport where
  events : List (Time × Event Float)
  summary : Summary Float

namespace ReplayFailure

/-- The wording of a failure. -/
def message : ReplayFailure Float → String
  | .outOfRange e => e.message
  | .zeroCapacity => "Sample buffer capacity must be non-zero"

end ReplayFailure

namespace ReplayReport

/-- The report on the log of a document. -/
def ofDocument (o : ReplayOptions) (s : Settings Float) (os : Octets) :
    Except ReportFailure ReplayReport :=
  match Log.read os with
  | .error fault => .error (.fault fault)
  | .ok log =>
      match Replay.run o s log with
      | .error failure => .error (.replay failure)
      | .ok p => .ok ⟨p.events, p.summary log.readings.length⟩

/-- The line of an event. -/
def eventToJson (e : Time × Event Float) : Value :=
  Value.sorted (.record [("event", e.2.toJson), ("time_us", .natural e.1)])

end ReplayReport

namespace Summary

/-- The summary, without the name of the log. -/
def fields (s : Summary Float) : List (String × Value) :=
  [("cycles", .natural s.cycles),
   ("events", .record (s.eventCounts.map fun c => (c.1, .natural c.2))),
   ("faulty_sources", .list (s.faulty.map fun f => .text f.name)),
   ("final_position_ned", .ofVec3 s.position),
   ("last_known_pos_ne", .ofVec2 s.anchor),
   ("mag_declination_deg", .real (Replay.degrees s.declination)),
   ("reset_counters", s.counters.toJson),
   ("samples", .natural s.samples),
   ("status", s.status.toJson),
   ("status_bits", .natural s.status.word)]

def toJson (s : Summary Float) : Value := Value.sorted (.record s.fields)

end Summary

end NavArbiter

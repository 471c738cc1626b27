/-
# The command

The command replays logs and prints what the arbitration decided: a line for each event, unless it
is to be quiet, and then the list of summaries, each with the path of its log.  Its exit code is
zero after a batch, whatever was skipped, one after a failure, and two if the arguments are refused.
-/
import NavArbiter.CommandLine.Batch

namespace NavArbiter

open Json

/-- How a run of the command ends. -/
inductive CommandEnding where
  | helped
  | misused (reason : Misuse)
  | failed (failure : CommandFailure)
  | finished (quiet : Bool) (batch : Batch)

/-! ## Messages -/

namespace Misuse

/-- The wording of a misuse. -/
def message : Misuse → String
  | unexpected argument => "unexpected argument '" ++ argument ++ "'"
  | repeated name => "--" ++ name ++ " is given twice"
  | valueMissing name => "--" ++ name ++ " needs a value"
  | valueRefused name value => "--" ++ name ++ " does not take '" ++ value ++ "'"
  | conflict name other => "--" ++ name ++ " excludes --" ++ other

end Misuse

/-- The wording of a fault of a file. -/
def FileFault.message : FileFault → String
  | missing => "no such file or directory"
  | unreadable => "cannot be read"

/-- The wording of a fault of a document. -/
def Json.Fault.message (f : Fault) : String := "not a proper document (" ++ f.name ++ ")"

namespace LogFailure

/-- The wording of a failure. -/
def message : LogFailure → String
  | file fault => fault.message
  | damaged => "not properly packed"
  | report (.fault fault) => fault.message
  | report (.replay failure) => failure.message

end LogFailure

namespace LoadFailure

/-- The wording of a failure. -/
def message : LoadFailure → String
  | file fault => fault.message
  | settings (.fault fault) => fault.message
  | settings (.outOfRange e) => e.message

end LoadFailure

namespace CommandFailure

/-- The wording of a failure. -/
def message : CommandFailure → String
  | settings path failure => path ++ ": " ++ failure.message
  | directory path fault => path ++ ": " ++ fault.message
  | log path failure => path ++ ": " ++ failure.message
  | nothingToReplay => "Provide --log or --log-dir"

end CommandFailure

/-! ## Output -/

namespace Batch

/-- All events, log by log. -/
def events (b : Batch) : List (Time × Event Float) := b.replayed.flatMap fun r => r.2.events

/-- The summary of a log, with its path. -/
def resultToJson (r : String × ReplayReport) : Value :=
  Value.sorted (.record (("log", .text r.1) :: r.2.summary.fields))

/-- The list of summaries. -/
def results (b : Batch) : List Value := b.replayed.map resultToJson

end Batch

namespace CommandEnding

/-- The exit code. -/
def exitCode : CommandEnding → Nat
  | helped => 0
  | misused _ => 2
  | failed _ => 1
  | finished _ _ => 0

/-- The events that are printed. -/
def events : CommandEnding → List Value
  | finished quiet b => if quiet then [] else b.events.map ReplayReport.eventToJson
  | _ => []

/-- The summaries that are printed, if any list of them is. -/
def results? : CommandEnding → Option (List Value)
  | finished _ b => some b.results
  | _ => none

/-- What the command can do. -/
def usage : List String :=
  ["Replays sensor logs through the aiding arbitration.",
   "",
   "Options:",
   "  --log <LOG>                a sensor log (.json or .json.gz)",
   "  --log-dir <LOG_DIR>        a directory of sensor logs",
   "  --params <PARAMS>          settings as a document",
   "  --delay-ms <DELAY_MS>      delay of the fusion horizon in milliseconds, 100",
   "  --buffer-len <BUFFER_LEN>  samples kept of each sensor, 12",
   "  --quiet                    print the summaries only",
   "  -h, --help                 print this text"]

/-- The lines of the standard output. -/
def output : CommandEnding → List String
  | helped => usage
  | e => e.events.map Value.compact ++ (e.results?.map fun vs => (Value.list vs).pretty 0).toList

/-- The lines of the error output. -/
def messages : CommandEnding → List String
  | helped => []
  | misused reason => ["error: " ++ reason.message]
  | failed failure => ["Error: " ++ failure.message]
  | finished _ b => b.skipped.map fun s => "Failed " ++ s.1 ++ ": " ++ s.2.message

/-- Runs the command with arguments. -/
def ofArguments {m : Type → Type} [Monad m] (files : Files m) (arguments : List String) :
    m CommandEnding := do
  match Arguments.parse arguments with
  | .help => return helped
  | .misuse reason => return misused reason
  | .replay a =>
      match ← Batch.ofArguments files a with
      | .error failure => return failed failure
      | .ok b => return finished a.quiet b

end CommandEnding

end NavArbiter

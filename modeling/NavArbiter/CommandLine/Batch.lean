/-
# Replaying files

A log file is unpacked if its name says so, and replayed.  Of a directory all logs are replayed in
the order of their names; one that cannot be replayed is skipped and the others go on.  A single log
that cannot be replayed is a failure of the command.
-/
import NavArbiter.CommandLine.Arguments
import NavArbiter.CommandLine.Files
import NavArbiter.Gzip.Member
import NavArbiter.Replay.Report

namespace NavArbiter

/-- Why a log file is not replayed. -/
inductive LogFailure where
  | file (fault : FileFault)
  /-- The file is not properly packed. -/
  | damaged
  | report (failure : ReportFailure)

/-- Why settings cannot be loaded. -/
inductive LoadFailure where
  | file (fault : FileFault)
  | settings (failure : SettingsFailure)

/-- Why a command fails. -/
inductive CommandFailure where
  | settings (path : String) (failure : LoadFailure)
  | directory (path : String) (fault : FileFault)
  | log (path : String) (failure : LogFailure)
  /-- Neither a log nor a directory was given. -/
  | nothingToReplay

/-- The logs that were replayed, and those that were not. -/
structure Batch where
  replayed : List (String × ReplayReport) := []
  skipped : List (String × LogFailure) := []

/-- The settings of a file. -/
def Settings.load {m : Type → Type} [Monad m] (files : Files m) (path : String) :
    m (Except LoadFailure (Settings Float)) := do
  match ← files.read path with
  | .error fault => return .error (.file fault)
  | .ok bytes => return (Settings.read (.ofBytes bytes.toList)).mapError .settings

namespace ReplayReport

/-- The report on the content of a log file. -/
def ofContent (o : ReplayOptions) (s : Settings Float) (path : String) (bytes : Array UInt8) :
    Except LogFailure ReplayReport :=
  let content? := if FilePath.isPacked path then Gzip.unpack? bytes else some bytes
  match content? with
  | none => .error .damaged
  | some content => (ofDocument o s (.ofBytes content.toList)).mapError .report

/-- The report on a log file. -/
def ofFile {m : Type → Type} [Monad m] (files : Files m) (o : ReplayOptions) (s : Settings Float)
    (path : String) : m (Except LogFailure ReplayReport) := do
  match ← files.read path with
  | .error fault => return .error (.file fault)
  | .ok bytes => return ofContent o s path bytes

end ReplayReport

namespace Batch

/-- The batch with the outcome for one more log. -/
def add (b : Batch) (path : String) : Except LogFailure ReplayReport → Batch
  | .ok report => { b with replayed := b.replayed ++ [(path, report)] }
  | .error failure => { b with skipped := b.skipped ++ [(path, failure)] }

variable {m : Type → Type} [Monad m]

/-- The batch with the logs of more paths. -/
def addFiles (files : Files m) (o : ReplayOptions) (s : Settings Float) :
    Batch → List String → m Batch
  | b, [] => return b
  | b, path :: paths => do
      addFiles files o s (b.add path (← ReplayReport.ofFile files o s path)) paths

/-- The paths of the logs among the files of a directory, in the order of their names. -/
def logPaths (directory : String) (names : List String) : List String :=
  ((names.filter FilePath.isLog).mergeSort fun a b => decide (a ≤ b)).map
    (FilePath.inside directory)

/-- The settings that arguments ask for. -/
def settingsOf (files : Files m) (a : Arguments) :
    m (Except CommandFailure (Settings Float)) := do
  match a.settings with
  | none => return .ok .default
  | some path => return (← Settings.load files path).mapError (.settings path)

/-- Replays what arguments ask for with these settings. -/
def withSettings (files : Files m) (a : Arguments) (s : Settings Float) :
    m (Except CommandFailure Batch) := do
  match a.directory, a.log with
  | some directory, _ =>
      match ← files.list directory with
      | .error fault => return .error (.directory directory fault)
      | .ok names => return .ok (← addFiles files a.options s {} (logPaths directory names))
  | none, some path =>
      match ← ReplayReport.ofFile files a.options s path with
      | .error failure => return .error (.log path failure)
      | .ok report => return .ok { replayed := [(path, report)] }
  | none, none => return .error .nothingToReplay

/-- Replays what arguments ask for.  The settings are loaded first. -/
def ofArguments (files : Files m) (a : Arguments) : m (Except CommandFailure Batch) := do
  match ← settingsOf files a with
  | .error failure => return .error failure
  | .ok s => withSettings files a s

end Batch

end NavArbiter

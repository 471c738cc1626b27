/-
# The program

Connects the command with the real files, the arguments of the process and its streams.  The library
has no way to list a directory of the real file system, so here a directory counts as unreadable.
-/
import NavArbiter.CommandLine

namespace NavArbiter.RealFiles

/-- The fault behind an error of the system. -/
def faultOf : IO.Error → FileFault
  | .noFileOrDirectory .. => .missing
  | _ => .unreadable

/-- The content of a file. -/
def read (path : String) : IO (Except FileFault (Array UInt8)) := do
  try return .ok (← IO.FS.readBinFile path).data
  catch e => return .error (faultOf e)

/-- The real files, without their directories. -/
def files : Files IO := ⟨read, fun _ => return .error .unreadable⟩

end NavArbiter.RealFiles

/-- Runs the command. -/
def main (arguments : List String) : IO UInt32 := do
  let ending ← NavArbiter.CommandEnding.ofArguments NavArbiter.RealFiles.files arguments
  for line in ending.messages do
    IO.eprintln line
  for line in ending.output do
    IO.println line
  return ending.exitCode.toUInt32

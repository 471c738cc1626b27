/-
# Files

What the command needs of a file system: the content of a file, and the names of the files directly
in a directory.  Both may fail.  The command is written over this interface, so it runs on the real
files as well as on a table of contents.
-/

namespace NavArbiter

/-- Why a file or a directory cannot be read. -/
inductive FileFault where
  | missing
  | unreadable
  deriving DecidableEq, Repr

/-- A file system, as actions of a monad. -/
structure Files (m : Type → Type) where
  /-- The content of a file. -/
  read : String → m (Except FileFault (Array UInt8))
  /-- The names of the regular files directly in a directory. -/
  list : String → m (Except FileFault (List String))

namespace FilePath

/-- The last part of a path. -/
def name (path : String) : String :=
  String.ofList (path.toList.reverse.takeWhile (· != '/')).reverse

/-- The path of a file in a directory. -/
def inside (directory file : String) : String :=
  if directory.endsWith "/" then directory ++ file else directory ++ "/" ++ file

/-- A packed file, by its name. -/
def isPacked (path : String) : Bool :=
  let n := name path
  n.endsWith ".gz" && n != ".gz"

/-- A log, by its name. -/
def isLog (path : String) : Bool := path.endsWith ".json" || path.endsWith ".json.gz"

end FilePath

end NavArbiter

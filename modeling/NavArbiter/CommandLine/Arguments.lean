/-
# Arguments

The command takes options with a value, written `--name value` or `--name=value`, and flags.  The
arguments are read from left to right and the first that does not fit is refused; what concerns two
options together is tested at the end.  A request for help ends the reading.

`Arguments.parse` is a function of the arguments alone, so it can be studied without any file.
-/
import NavArbiter.Replay.Run

namespace NavArbiter

/-- What a run of the command is asked to do. -/
structure Arguments where
  /-- The log to replay. -/
  log : Option String := none
  /-- The directory whose logs are replayed. -/
  directory : Option String := none
  /-- The settings file. -/
  settings : Option String := none
  options : ReplayOptions := {}
  /-- Only the summaries are printed. -/
  quiet : Bool := false

/-- Why arguments are refused. -/
inductive Misuse where
  | unexpected (argument : String)
  | repeated (name : String)
  | valueMissing (name : String)
  | valueRefused (name value : String)
  | conflict (name other : String)
  deriving DecidableEq, Repr

/-- What arguments ask for. -/
inductive Invocation where
  | help
  | misuse (reason : Misuse)
  | replay (arguments : Arguments)

/-- An option with a value. -/
inductive ValueOption where
  | log
  | directory
  | settings
  | delay
  | capacity
  deriving DecidableEq, Repr

namespace ValueOption

/-- All options with a value. -/
def all : List ValueOption := [log, directory, settings, delay, capacity]

/-- The name of an option, after the two dashes. -/
def name : ValueOption → String
  | log => "log"
  | directory => "log-dir"
  | settings => "params"
  | delay => "delay-ms"
  | capacity => "buffer-len"

end ValueOption

namespace Arguments

/-- Options read so far, by their values. -/
structure Given where
  log : Option String := none
  directory : Option String := none
  settings : Option String := none
  delay : Option Nat := none
  capacity : Option Nat := none
  quiet : Bool := false

/-- Why the reading of arguments stops before their end. -/
inductive Stop where
  | help
  | misuse (reason : Misuse)

/-- Refuses an argument. -/
def refuse {β : Type} (reason : Misuse) : Except Stop β := .error (.misuse reason)

/-! ## Values -/

/-- A natural number of 64 bits: digits, perhaps after a plus. -/
def number? (text : String) : Option Nat :=
  let ds := match text.toList with
    | '+' :: ds => ds
    | ds => ds
  if ds.isEmpty || !ds.all Char.isDigit then none
  else
    let n := Nat.ofDigitChars 10 ds 0
    if n < Json.Numeral.wordBound then some n else none

/-- A value for a path, which must not be empty. -/
def path? (text : String) : Option String := if text.isEmpty then none else some text

/-- Stores a value that an option does not have yet. -/
def put {β : Type} (o : ValueOption) (old : Option β) (text : String) (new : Option β)
    (store : β → Given) : Except Stop Given :=
  match old, new with
  | some _, _ => refuse (.repeated o.name)
  | none, none => refuse (.valueRefused o.name text)
  | none, some x => .ok (store x)

/-- The options with the value of one more. -/
def Given.set (g : Given) (o : ValueOption) (text : String) : Except Stop Given :=
  match o with
  | .log => put o g.log text (path? text) fun p => { g with log := some p }
  | .directory => put o g.directory text (path? text) fun p => { g with directory := some p }
  | .settings => put o g.settings text (path? text) fun p => { g with settings := some p }
  | .delay => put o g.delay text (number? text) fun n => { g with delay := some n }
  | .capacity => put o g.capacity text (number? text) fun n => { g with capacity := some n }

/-! ## Reading -/

/-- What an argument is by its form. -/
inductive Form where
  | help
  /-- Nothing after it is an option. -/
  | separator
  | quiet
  | option (o : ValueOption) (value : Option String)
  | other

/-- The name before the first equals sign, and the value after it. -/
def splitValue (cs : List Char) : String × Option String :=
  let name := String.ofList (cs.takeWhile (· != '='))
  match cs.dropWhile (· != '=') with
  | [] => (name, none)
  | _ :: value => (name, some (String.ofList value))

/-- The form of an argument after two dashes. -/
def longForm (cs : List Char) : Form :=
  let (name, value) := splitValue cs
  match ValueOption.all.find? fun o => o.name == name with
  | some o => .option o value
  | none =>
      if name == "quiet" && value.isNone then .quiet
      else if name == "help" && value.isNone then .help
      else .other

/-- The form of an argument. -/
def form (argument : String) : Form :=
  match argument.toList with
  | ['-', '-'] => .separator
  | '-' :: '-' :: cs => longForm cs
  | '-' :: 'h' :: _ => .help
  | _ => .other

/-- An argument that can only be an option. -/
def isOption (argument : String) : Bool :=
  match argument.toList with
  | ['-'] => false
  | '-' :: _ => true
  | _ => false

/-- The options after the arguments that remain. -/
def readFrom (g : Given) : List String → Except Stop Given
  | [] => .ok g
  | a :: rest =>
      match form a with
      | .help => .error .help
      | .other => refuse (.unexpected a)
      | .separator =>
          match rest with
          | [] => .ok g
          | b :: _ => refuse (.unexpected b)
      | .quiet =>
          if g.quiet then refuse (.repeated "quiet") else readFrom { g with quiet := true } rest
      | .option o (some text) => do readFrom (← g.set o text) rest
      | .option o none =>
          match rest with
          | [] => refuse (.valueMissing o.name)
          | text :: rest =>
              if isOption text then refuse (.valueMissing o.name)
              else do readFrom (← g.set o text) rest

/-- The request that options make. -/
def ofGiven (g : Given) : Invocation :=
  if g.log.isSome && g.directory.isSome then
    .misuse (.conflict ValueOption.log.name ValueOption.directory.name)
  else
    let standard : ReplayOptions := {}
    .replay
      { log := g.log
        directory := g.directory
        settings := g.settings
        options := ⟨g.delay.getD standard.delay, g.capacity.getD standard.capacity⟩
        quiet := g.quiet }

/-- What arguments ask for. -/
def parse (arguments : List String) : Invocation :=
  match readFrom {} arguments with
  | .error .help => .help
  | .error (.misuse reason) => .misuse reason
  | .ok g => ofGiven g

end Arguments

end NavArbiter

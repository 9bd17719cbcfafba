import RuntimeSupport.Arguments
import RuntimeSupport.Log.Logger
import RuntimeSupport.Memory.Heap
import RuntimeSupport.Settings
import RuntimeSupport.Sink
import RuntimeSupport.Variadic

/-!
Running programs.  A program has an environment, standard output and standard error, memory, and
three things that are set up at most once: its logging, its settings and its arguments.  What it
relies on and does not do itself is its `Platform`.

An `Action` is what a program does: it changes the state and either answers or ends the process.
-/

namespace RuntimeSupport

/-- How a process ends. -/
inductive Ending
  /-- With a status, of which the low 8 bits are seen. -/
  | exited (status : UInt8)
  /-- By the abort signal. -/
  | aborted
  deriving DecidableEq, Repr

namespace Ending

/-- The ending that a policy asks for. -/
def ofPolicy : AbortPolicy → Ending
  | .exit code => .exited code.toUInt32.toUInt8
  | .trap => .aborted

/-- The ending of a process that has nothing more to do. -/
def success : Ending := .exited 0

/-- The status, unless a signal ended the process. -/
def status? : Ending → Option UInt8
  | exited status => some status
  | aborted => none

/-- The number of the signal, if one ended the process. -/
def signal? : Ending → Option Nat
  | exited _ => none
  | aborted => some 6

end Ending

/-- What a program runs on. -/
structure Platform where
  /-- What renders the formats of variadic calls. -/
  formatter : Variadic.Host (List Variadic.Argument)
  /-- What writes the records. -/
  logger : Log.Logger
  /-- The number of bytes of memory. -/
  capacity : Nat
  /-- No machine has more memory than half of its addresses. -/
  capacity_le : capacity ≤ 0x8000_0000_0000_0000

/-- The platform that this library brings along. -/
def Platform.standard : Platform :=
  ⟨.own, .standard, Memory.standardCapacity, by decide⟩

/-- The state of a running program. -/
structure Program where
  /-- What it runs on. -/
  platform : Platform
  /-- The environment. -/
  environment : Environment
  /-- The arguments that the system has started the process with. -/
  systemArguments : List Bytes
  /-- Standard output. -/
  sink : Sink
  /-- What has been written to standard error. -/
  errors : Bytes
  /-- Which records are written, once logging is set up. -/
  filter : Option (Log.Record → Bool)
  /-- The settings, once they are loaded. -/
  settings : Option Settings
  /-- The arguments, once they are captured. -/
  arguments : Option Arguments
  /-- Memory. -/
  heap : Memory.Heap
  /-- What the pointer variables of the program point at; one without an entry is null. -/
  pointers : Table Nat Memory.Handle

/-- What a program does: it answers or ends, and leaves a state either way. -/
abbrev Action := EStateM Ending Program

namespace Program

/-- The address of what is not null.  Which one it is never shows. -/
def somewhere : UInt64 := 16

/-- A program before it has done anything. -/
def start (platform : Platform) (environment : Environment) (systemArguments : List Bytes)
    (device : Device) : Program :=
  ⟨platform, environment, systemArguments, .start device, [], none, none, none,
    .empty platform.capacity, .empty⟩

/-- Whether the system can hand over a text: it ends at its first NUL byte. -/
def isTransferable (bs : Bytes) : Bool := !bs.contains 0

/-- A program that is started with variables and arguments on the platform of this library, if the
system can hand them over. -/
def launch? (assignments : List (String × Bytes)) (systemArguments : List Bytes)
    (device : Device) : Option Program :=
  let names := assignments.map fun a => Text.Utf8.encode a.1
  if (names ++ assignments.map Prod.snd ++ systemArguments).all isTransferable then
    some (start .standard (.ofAssignments assignments) systemArguments device)
  else none

/-- Writes to standard error. -/
def report (p : Program) (bs : Bytes) : Program := { p with errors := p.errors ++ bs }

/-- Writes a record to standard error, if logging is set up and its filter admits it. -/
def log (p : Program) (r : Log.Record) : Program :=
  match p.filter with
  | some admits => if admits r then p.report (p.platform.logger.line r) else p
  | none => p

/-- The warning that a value of the environment is not used. -/
def ignoring (e : Settings.Error) : Log.Record :=
  ⟨.warn, .settings, "ignoring invalid runtime config: " ++ e.message⟩

/-- The record that settings have been loaded. -/
def loaded (s : Settings) : Log.Record :=
  ⟨.debug, .settings, "runtime config loaded: " ++ s.describe⟩

/-- The settings, which are loaded from the environment when they are first asked for. -/
def loadSettings (p : Program) : Settings × Program :=
  match p.settings with
  | some s => (s, p)
  | none =>
    let (s, errors) := Settings.loadLenient p.environment.lookup
    let p' := ((errors.map ignoring) ++ [loaded s]).foldl log p
    (s, { p' with settings := some s })

/-- The filter text of a process that sets none. -/
def defaultFilter : String := "off"

/-- The text of the filter that the environment sets. -/
def filterText (p : Program) : String := (p.environment.lookup .log).getD defaultFilter

/-- The filter that the environment sets, and what is written about the parts of it that are left
out. -/
def readFilter (p : Program) : (Log.Record → Bool) × Bytes := p.platform.logger.read p.filterText

/-- The record that logging has been set up. -/
def loggingStarted (text : String) : Log.Record :=
  ⟨.debug, .logging, "logging initialised with filter " ++ Text.quote text⟩

/-- Sets logging up with the filter of the environment, unless that has been done, and loads the
settings.  What makes no sense in the filter is reported every time. -/
def startLogging (p : Program) : Program :=
  let (filter, complaints) := p.readFilter
  let p := p.report complaints
  let p := match p.filter with
    | some _ => p
    | none => { p with filter := some filter }.log (loggingStarted p.filterText)
  p.loadSettings.2

end Program

end RuntimeSupport

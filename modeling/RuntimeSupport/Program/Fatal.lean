import RuntimeSupport.Program.State

/-!
The fatal path.  A process that cannot go on says why on standard error and ends as its settings
demand; what it had printed before is flushed first.  Every fault of a call of a compiled program
ends here, since such a call has no other way to report it.
-/

namespace RuntimeSupport.Action

/-- Ends the process at once. -/
def terminate {α : Type} (policy : AbortPolicy) : Action α := fun p => .error (.ofPolicy policy) p

/-- The state of a process after its last words. -/
def lastWords (p : Program) (message : Bytes) : Program :=
  let p := p.log ⟨.error, .fatal, "fatal: " ++ Text.Utf8.decodeLossy message⟩
  { p with sink := p.sink.flush.1 }.report (message ++ [Sink.newline])

/-- Says why the process cannot go on, and ends it. -/
def abort {α : Type} (message : Bytes) : Action α := fun p =>
  let (s, p') := (lastWords p message).loadSettings
  .error (.ofPolicy s.abort) p'

/-- Ends the process because of a fault. -/
def abortWith {α : Type} (f : Fault) : Action α := abort (Text.Utf8.encode f.message)

/-- The value of a result; a fault ends the process. -/
def orAbort {α : Type} : Except Fault α → Action α
  | .ok a => pure a
  | .error f => abortWith f

/-- The status of a process that a panic has ended. -/
def panicStatus : UInt8 := 101

/-- Ends the process because it panicked outside of a call of a compiled program. -/
def panic {α : Type} : Action α := fun p => .error (.exited panicStatus) p

/-- Ends the process because a call of a compiled program panicked. -/
def abortOnPanic {α : Type} (p : Format.Panic) : Action α :=
  abort (Text.Utf8.encode ("internal runtime panic: " ++ p.text))

end RuntimeSupport.Action

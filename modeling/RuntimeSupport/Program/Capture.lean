import RuntimeSupport.Program.Fatal

/-!
The arguments of a process, which are captured once.  Whoever asks for them before gets nothing, and
whoever captures them again changes nothing.
-/

namespace RuntimeSupport.Action

/-- The record that arguments have been captured. -/
def argumentsCaptured (a : Arguments) : Log.Record :=
  ⟨.debug, .arguments, "captured " ++ Numeral.decimal a.count ++ " process arguments"⟩

/-- Captures arguments. -/
def capture (a : Arguments) : Action (Except Fault Arguments) := fun p =>
  match p.arguments with
  | some _ => .ok (.error .argumentsAlreadyCaptured) p
  | none => .ok (.ok a) ({ p with arguments := some a }.log (argumentsCaptured a))

/-- Captures the arguments that the system has started the process with. -/
def captureSystem : Action (Except Fault Arguments) := do
  capture ⟨(← get).systemArguments⟩

/-- The captured arguments. -/
def captured : Action (Except Fault Arguments) := do
  match (← get).arguments with
  | some a => return .ok a
  | none => return .error .argumentsNotCaptured

/-- Sets logging up. -/
def startLogging : Action Unit := modify Program.startLogging

/-- Captures the arguments that the system hands over, as the first thing that a compiled program
does. -/
def storeArguments (raw : RawArguments) : Action Unit := do
  startLogging
  let a ← orAbort (Arguments.ofRaw raw)
  let _ ← orAbort (← capture a)

/-- The number of captured arguments. -/
def argumentCount : Action Nat := do
  let a ← orAbort (← captured)
  return a.count

/-- A captured argument. -/
def argument (n : Nat) : Action Span := do
  orAbort ((← captured).bind (·.span n))

end RuntimeSupport.Action

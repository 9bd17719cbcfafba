import RuntimeSupport.Ascii
import RuntimeSupport.Numeral
import RuntimeSupport.Text.Blank
import RuntimeSupport.Text.Quoted
import RuntimeSupport.Text.Utf8

/-!
Settings of a process: how a fatal error ends it, and which diagnostics it prints.  They come from
three environment variables and can be loaded in two ways.  Strict loading fails at the first
variable with an invalid value; lenient loading replaces each invalid value by a default and reports
all of them.
-/

namespace RuntimeSupport

/-- How a fatal error ends the process. -/
inductive AbortPolicy
  /-- By exiting with a status. -/
  | exit (code : Int32)
  /-- By raising the abort signal. -/
  | trap
  deriving DecidableEq, Repr

/-- The settings of a process. -/
structure Settings where
  /-- How a fatal error ends the process. -/
  abort : AbortPolicy
  /-- Which diagnostics are printed. -/
  logFilter : Option String
  deriving DecidableEq, Repr

namespace Settings

/-- Why the value of a variable is invalid. -/
inductive Error
  /-- The abort policy is neither `exit` nor `trap`. -/
  | unknownAbortPolicy (value : String)
  /-- The exit code is not an integer, or not one of 32 bits. -/
  | invalidExitCode (value : String)
  /-- The exit code does not fit a status that means failure. -/
  | exitCodeOutOfRange (code : Int32)
  deriving DecidableEq, Repr

/-- The text that describes an error. -/
def Error.message : Error → String
  | .unknownAbortPolicy value =>
    "unknown abort strategy " ++ Text.quote value ++ ", expected \"exit\" or \"trap\""
  | .invalidExitCode value => "exit code " ++ Text.quote value ++ " is not an integer"
  | .exitCodeOutOfRange code =>
    "exit code " ++ Numeral.signedDecimal code.toInt ++ " is outside 1..=255"

/-- The variables that hold settings. -/
inductive Variable
  /-- The abort policy. -/
  | abort
  /-- The exit code of the abort policy `exit`. -/
  | exitCode
  /-- The log filter. -/
  | log
  deriving DecidableEq, Repr

/-- The name of a variable in the environment. -/
def Variable.name : Variable → String
  | .abort => "AURT_ABORT"
  | .exitCode => "AURT_EXIT_CODE"
  | .log => "AURT_LOG"

/-- The values of the variables; one that is not set has none. -/
abbrev Lookup := Variable → Option String

/-- The exit code if none is set. -/
def defaultExitCode : Int32 := 1

/-- Whether an exit code means failure even when only its low 8 bits survive. -/
def IsFailureCode (code : Int32) : Prop := 1 ≤ code ∧ code ≤ 255

instance (code : Int32) : Decidable (IsFailureCode code) :=
  inferInstanceAs (Decidable (1 ≤ code ∧ code ≤ 255))

/-- The exit code that a value stands for.  Blanks around it do not count. -/
def readExitCode : Option String → Except Error Int32
  | none => .ok defaultExitCode
  | some value =>
    match Numeral.readInt32? (Text.trim value).toList with
    | none => .error (.invalidExitCode value)
    | some code => if IsFailureCode code then .ok code else .error (.exitCodeOutOfRange code)

/-- The abort policy that a value stands for, given the exit code.  Blanks at its ends do not
count. -/
def readPolicy (code : Int32) : Option String → Except Error AbortPolicy
  | none => .ok (.exit code)
  | some value =>
    let word := Text.trim value
    if word = "exit" then .ok (.exit code)
    else if word = "trap" then .ok .trap
    else .error (.unknownAbortPolicy word)

/-- Settings must not let a fatal error end in a status that reads as success. -/
def validate (s : Settings) : Except Error Unit :=
  match s.abort with
  | .trap => .ok ()
  | .exit code => if IsFailureCode code then .ok () else .error (.exitCodeOutOfRange code)

/-- Loads settings, failing at the first invalid value. -/
def load (lookup : Lookup) : Except Error Settings := do
  let code ← readExitCode (lookup .exitCode)
  let abort ← readPolicy code (lookup .abort)
  let s : Settings := ⟨abort, lookup .log⟩
  s.validate
  return s

/-- The value of a result, or the fallback along with the error. -/
def orElseReport {α : Type} (fallback : α) : Except Error α → α × List Error
  | .ok a => (a, [])
  | .error e => (fallback, [e])

/-- Loads settings with a default in place of each invalid value; answers also the errors, in
order. -/
def loadLenient (lookup : Lookup) : Settings × List Error :=
  let code := orElseReport defaultExitCode (readExitCode (lookup .exitCode))
  let abort := orElseReport (.exit code.1) (readPolicy code.1 (lookup .abort))
  (⟨abort.1, lookup .log⟩, code.2 ++ abort.2)

/-- The settings of an empty environment. -/
def default : Settings := ⟨.exit defaultExitCode, none⟩

/-- How diagnostics show an abort policy. -/
def describePolicy : AbortPolicy → String
  | .exit code => "Exit \x7b code: " ++ Numeral.signedDecimal code.toInt ++ " \x7d"
  | .trap => "Trap"

/-- How diagnostics show settings. -/
def describe (s : Settings) : String :=
  let filter := match s.logFilter with
    | none => "None"
    | some f => "Some(" ++ Text.quote f ++ ")"
  "RuntimeConfig \x7b abort: " ++ describePolicy s.abort ++ ", log_filter: " ++ filter ++ " \x7d"

end Settings

/-- The environment of a process: the bytes of each variable that is set. -/
abbrev Environment := String → Option Bytes

/-- The environment in which nothing is set. -/
def Environment.empty : Environment := fun _ => none

/-- The environment in which variables have been set, the later ones over the earlier ones.  The
system keeps each as one text, its name and its value with an equals sign between; so a name with
such a sign in it sets a variable of a shorter name, unless that one is set as well. -/
def Environment.ofAssignments (assignments : List (String × Bytes)) : Environment := fun v =>
  let start := v.toList ++ ['=']
  (assignments.reverse.lookup v).or <|
    assignments.findSome? fun (name, value) =>
      if start.isPrefixOf name.toList then
        let rest := String.ofList (name.toList.drop start.length)
        some (Text.Utf8.encode rest ++ Ascii.code '=' :: value)
      else none

/-- The settings variables of an environment.  A value that is not UTF-8 counts as not set. -/
def Environment.lookup (env : Environment) : Settings.Lookup :=
  fun v => (env v.name).bind Text.Utf8.decode?

end RuntimeSupport

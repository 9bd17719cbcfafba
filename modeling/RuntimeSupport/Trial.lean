import RuntimeSupport.Program.Script

/-!
Trials: a script that is expected to end its process runs in a child process, and the parent looks
at how the child ended and what it printed.
-/

namespace RuntimeSupport

/-- A script to run in a child process. -/
structure Trial where
  /-- The name of the trial, by which the child knows that it is one. -/
  name : String
  /-- Variables to set in the child, the later ones over the earlier ones. -/
  assignments : List (String × String)
  /-- The name by which the program of the child looks for its trial. -/
  childName : String
  /-- What the child does if it finds its trial. -/
  script : List Program.Step

/-- What the parent sees of a child. -/
structure Verdict where
  /-- The status of the child, unless a signal ended it. -/
  status : Option UInt8
  /-- What the child printed. -/
  output : String
  /-- What the child wrote to standard error. -/
  errors : String
  deriving DecidableEq, Repr

namespace Trial

/-- The variable that names the trial of a child. -/
def marker : String := "AURT_DEATH_TEST"

/-- Whether a process is the child of the trial with the given name. -/
def isChild (env : Environment) (name : String) : Bool :=
  (env marker).bind Text.Utf8.decode? == some name

/-- The variables of the child: the one that names its trial, and those that the trial sets. -/
def assignmentsOfChild (t : Trial) : List (String × Bytes) :=
  ((marker, t.name) :: t.assignments).map fun (name, value) => (name, Text.Utf8.encode value)

/-- The arguments of the child: its program, the trial to run, and how to run it. -/
def argumentsOfChild (t : Trial) : List Bytes :=
  ["trial", t.name, "--exact", "--nocapture", "--test-threads=1"].map Text.Utf8.encode

/-- The status of a child that is not the one that its program looks for. -/
def strangerStatus : UInt8 := 9

/-- What such a child prints. -/
def strangerOutput : String := "not in child\n"

/-- What the parent sees of a child that has been started. -/
def observe (t : Trial) (child : Program) : Verdict :=
  if isChild child.environment t.childName then
    let r := child.run t.script
    ⟨r.ending.status?, Text.Utf8.decodeLossy r.last.sink.delivered,
      Text.Utf8.decodeLossy r.last.errors⟩
  else ⟨some strangerStatus, strangerOutput, ""⟩

/-- Runs a trial, if its child can be started. -/
def run? (t : Trial) : Option Verdict :=
  (Program.launch? t.assignmentsOfChild t.argumentsOfChild .working).map t.observe

end Trial

/-- What a parent can expect of a child. -/
inductive Expectation
  /-- It exited with the given status. -/
  | status (code : Int)
  /-- It did not exit successfully. -/
  | failure
  /-- A signal ended it. -/
  | signal
  /-- A text occurs in what it wrote to standard error. -/
  | errors (text : String)
  /-- A text occurs in what it printed. -/
  | output (text : String)
  deriving DecidableEq, Repr

/-- Whether a text occurs in another one. -/
def occursIn (needle : List Char) : List Char → Bool
  | [] => needle.isEmpty
  | c :: cs => needle.isPrefixOf (c :: cs) || occursIn needle cs

/-- Whether a child did as expected. -/
def Verdict.meets (v : Verdict) : Expectation → Bool
  | .status code => v.status.map (fun s => (s.toNat : Int)) == some code
  | .failure => v.status != some 0
  | .signal => v.status.isNone
  | .errors text => occursIn text.toList v.errors.toList
  | .output text => occursIn text.toList v.output.toList

end RuntimeSupport

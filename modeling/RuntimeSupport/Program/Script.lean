import RuntimeSupport.Log.Address
import RuntimeSupport.Memory.Refusal
import RuntimeSupport.Program.Capture
import RuntimeSupport.Program.Memory
import RuntimeSupport.Program.Printing

/-!
Scripts of a process.  `Step.perform` says what one step does and `Program.run` what a whole script
does: the answers of the steps that came back, what was printed, and how the process ended.
-/

namespace RuntimeSupport.Program

open Memory

/-- Where the array comes from that a step passes. -/
inductive ArraySource
  /-- It is a text of the program. -/
  | text (bs : Bytes)
  /-- It is the block that a variable points at. -/
  | block (id : Nat)
  /-- It is made from an address and a size. -/
  | view (v : View)
  deriving DecidableEq, Repr

/-- A place that a step copies from or to: an offset from what a variable points at. -/
structure Place where
  /-- The variable. -/
  id : Nat
  /-- The offset. -/
  offset : UInt64
  deriving DecidableEq, Repr

/-- A step of a process. -/
inductive Step
  /-- Captures arguments that the system hands over. -/
  | storeArguments (raw : RawArguments)
  /-- Counts the captured arguments. -/
  | argumentCount
  /-- Asks for a captured argument. -/
  | argument (n : Nat)
  /-- Asks for all captured arguments. -/
  | captured
  /-- Captures given arguments. -/
  | capture (args : List Bytes)
  /-- Captures the arguments that the process was started with. -/
  | captureSystem
  /-- Lets a variable point at zeroed memory for elements. -/
  | allocate (id : Nat) (size count : UInt64)
  /-- Changes the length of what a variable points at. -/
  | reallocate (id : Nat) (length : UInt64)
  /-- Gives back what a variable points at. -/
  | free (id : Nat)
  /-- Stores bytes without a check. -/
  | poke (id : Nat) (offset : UInt64) (bytes : Bytes)
  /-- Looks at what a variable points at. -/
  | read (id : Nat)
  /-- Copies bytes. -/
  | transfer (t : Action.Transfer) (dest source : Option Place) (count : UInt64)
  /-- Asks for the counters of the heap, with or without room for them. -/
  | counters (room : Bool)
  /-- Finds an element of an array. -/
  | index (array : ArraySource) (index elemSize : UInt64)
  /-- Finds an element of what a variable points at, and stores a byte there. -/
  | storeAt (id : Nat) (index elemSize : UInt64) (byte : UInt8)
  /-- Makes an array from an address and a size. -/
  | makeView (v : View)
  /-- Prints an array. -/
  | printArray (array : ArraySource)
  /-- Prints bytes. -/
  | print (bytes : Bytes)
  /-- Prints the rendering of a format. -/
  | printFormatted (fmt : Bytes) (args : List Format.Argument)
  /-- Prints the rendering of a format with arguments as a compiled program passes them. -/
  | printArguments (fmt : Option Bytes) (args : Option (List Format.RawArgument)) (count : UInt64)
  /-- Prints the rendering of a format with untagged arguments. -/
  | printVariadic (fmt : Option Bytes) (args : List Variadic.Argument)
  /-- Ends the process with an array as its last words. -/
  | abortArray (array : ArraySource)
  /-- Ends the process with given last words. -/
  | abort (message : Bytes)
  /-- Ends the process because of a fault. -/
  | abortWith (f : Fault)
  /-- Ends the process if a result is a fault. -/
  | orAbort (result : Except Fault UInt64)
  /-- Ends the process as a policy demands. -/
  | terminate (policy : AbortPolicy)
  /-- Sets logging up. -/
  | startLogging
  /-- Asks for the settings of the process. -/
  | settings
  /-- Reads the settings anew, strictly. -/
  | readSettings

/-- What a step answers. -/
inductive Answer
  /-- The step is done and has nothing to tell. -/
  | done
  /-- The call returned the unit value. -/
  | unit
  /-- A number. -/
  | number (n : Nat)
  /-- An argument. -/
  | argument (s : Span)
  /-- All arguments. -/
  | arguments (a : Arguments)
  /-- A block: its length and its bytes. -/
  | block (length : UInt64) (bytes : Bytes)
  /-- Where bytes have been copied to, unless to nowhere. -/
  | destination (block : Option (UInt64 × Bytes))
  /-- The counters of the heap. -/
  | counters (c : Counters)
  /-- The distance of an element from the start of its array. -/
  | offset (n : UInt64)
  /-- An array. -/
  | view (v : View)
  /-- The number of bytes printed. -/
  | written (n : Nat)
  /-- Settings. -/
  | settings (s : Settings)
  /-- The operation failed. -/
  | fault (f : Fault)
  /-- The settings are invalid. -/
  | settingsError (e : Settings.Error)
  /-- The step was not carried out. -/
  | refused (r : Refusal)
  deriving DecidableEq, Repr

/-- What a variable points at. -/
def pointee? (p : Program) (id : Nat) : Option Handle := p.pointers.get? id

/-- A block as its header and its bytes tell. -/
def display (p : Program) (x : Handle) : Answer :=
  let b := p.heap.ofRaw x
  .block b.length (p.heap.span b).bytes

/-- The array that a step passes, unless its variable is null. -/
def array? (p : Program) : ArraySource → Option PassedArray
  | .text bs => some ⟨⟨somewhere, Word.ofLength bs⟩, bs⟩
  | .block id => (p.pointee? id).map fun x =>
    let b := p.heap.ofRaw x
    ⟨b.view somewhere, (p.heap.span b).bytes⟩
  | .view v => some ⟨v, []⟩

/-- The pointer that a step passes: null, or a place, unless the variable of the place is null. -/
def location? (p : Program) : Option Place → Option (Option Location)
  | none => some none
  | some place => (p.pointee? place.id).map fun x => some ⟨x, place.offset⟩

/-- Whether two pointers lead to places that overlap. -/
def overlapping (dest source : Option Location) (count : UInt64) : Bool :=
  match dest, source with
  | some d, some s =>
    d.handle == s.handle
      && (d.offset.toNat - s.offset.toNat) + (s.offset.toNat - d.offset.toNat) < count.toNat
  | _, _ => false

/-- Lets a variable point at a block, and shows it. -/
def point (id : Nat) (x : Handle) : Action Answer := do
  modify fun p => { p with pointers := p.pointers.set id x }
  return (← get).display x

/-- Goes on with what a variable points at. -/
def withVariable (id : Nat) (missing : Refusal) (act : Handle → Action Answer) : Action Answer := do
  match (← get).pointee? id with
  | some x => act x
  | none => return .refused missing

/-- Goes on with the array that a step passes. -/
def withArray (source : ArraySource) (act : PassedArray → Action Answer) : Action Answer := do
  match (← get).array? source with
  | some a => act a
  | none => return .refused .noBlock

/-- Stores bytes and shows the block. -/
def store (x : Handle) (offset : UInt64) (bs : Bytes) : Action Answer := do
  modify fun p => { p with heap := p.heap.write ⟨x, offset⟩ bs }
  return (← get).display x

/-- The answer of an operation that may fail. -/
def answer {α : Type} (tell : α → Answer) : Except Fault α → Answer
  | .ok a => tell a
  | .error f => .fault f

/-- Whether a pointer leads to as many bytes as are asked for, if it leads anywhere. -/
def reaches (p : Program) (count : UInt64) : Option Location → Bool
  | some l => l.offset.toNat + count.toNat ≤ (p.heap.ofRaw l.handle).length.toNat
  | none => true

/-- Copies bytes, unless the outcome is not defined. -/
def transfer (t : Action.Transfer) (dest source : Option Place) (count : UInt64) :
    Action Answer := do
  let p ← get
  match p.location? dest, p.location? source with
  | some d, some s =>
    if t = .copy && overlapping d s count then return .refused .overlap
    if count > 0 && !(p.reaches count d && p.reaches count s) then return .refused .range
    let copied ← Action.transfer t d s count
    let p ← get
    return .destination <| copied.map fun l =>
      let b := p.heap.ofRaw l.handle
      (b.length, (p.heap.span b).bytes)
  | _, _ => return .refused .noBlock

/-- What a step does. -/
def Step.perform : Step → Action Answer
  | storeArguments raw => do
    Action.storeArguments raw
    return .done
  | argumentCount => do return .number (← Action.argumentCount)
  | argument n => do return .argument (← Action.argument n)
  | captured => do return answer .arguments (← Action.captured)
  | capture args => do return answer .arguments (← Action.capture ⟨args⟩)
  | captureSystem => do return answer .arguments (← Action.captureSystem)
  | allocate id size count => do point id (← Action.allocate size count)
  | reallocate id length => do
    point id (← Action.reallocate ((← get).pointee? id) length)
  | free id => do
    Action.free ((← get).pointee? id)
    modify fun p => { p with pointers := p.pointers.erase id }
    return .unit
  | poke id offset bs =>
    withVariable id .range fun x => do
      if offset.toNat + bs.length ≤ ((← get).heap.ofRaw x).length.toNat then store x offset bs
      else return .refused .range
  | read id => withVariable id .noBlock fun x => do return (← get).display x
  | transfer t dest source count => Program.transfer t dest source count
  | counters room => do return .counters (← Action.counters room)
  | index source i elemSize =>
    withArray source fun a => do
      return .offset ((← Action.index a.view i elemSize) - a.view.address)
  | storeAt id i elemSize byte =>
    withVariable id .noBlock fun x => do
      let v := ((← get).heap.ofRaw x).view somewhere
      store x ((← Action.index v i elemSize) - v.address) [byte]
  | makeView v => return .view v
  | printArray source =>
    withArray source fun a => do
      Action.printArray a
      return .unit
  | print bs => do
    Action.print bs
    return .done
  | printFormatted fmt args => do
    match ← Action.printFormatted fmt args with
    | .ok n => return .written n
    | .error (.error e) => return .fault (.format e)
    | .error (.panic _) => Action.panic
  | printArguments fmt args count => do
    Action.printArguments fmt args count
    return .unit
  | printVariadic fmt args => do
    Action.printVariadic fmt args
    return .unit
  | abortArray source => withArray source Action.abortArray
  | abort message => Action.abort message
  | abortWith f => Action.abortWith f
  | orAbort result => do return .number (← Action.orAbort result).toNat
  | terminate policy => Action.terminate policy
  | startLogging => do
    Action.startLogging
    return .done
  | settings => do return .settings (← modifyGet Program.loadSettings)
  | readSettings => do
    match Settings.load (← get).environment.lookup with
    | .ok s => return .settings s
    | .error e => return .settingsError e

/-- What a script comes to. -/
structure Report where
  /-- The answers of the steps that came back. -/
  answers : List Answer
  /-- The state in which the process ended. -/
  last : Program
  /-- How it ended. -/
  ending : Ending

/-- What the process has written to standard error, except for the addresses that its traces tell.
-/
def Report.errors (r : Report) : Bytes := Log.hideAddresses r.last.errors

/-- Performs a script.  After the last step the process ends successfully. -/
def run (p : Program) : List Step → Report
  | [] => ⟨[], p, .success⟩
  | s :: rest =>
    match s.perform p with
    | .ok a p' =>
      let r := p'.run rest
      { r with answers := a :: r.answers }
    | .error e p' => ⟨[], p', e⟩

end RuntimeSupport.Program

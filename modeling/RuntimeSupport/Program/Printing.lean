import RuntimeSupport.Format
import RuntimeSupport.Format.RawArgument
import RuntimeSupport.Program.Fatal
import RuntimeSupport.Variadic

/-!
Printing.  Output is complete before the first byte of it is written, and flushed before the next
step; so a call that fails prints nothing, and nothing that was printed is lost.
-/

namespace RuntimeSupport

/-- An array as a compiled program passes it: a view, and the bytes that it leads to. -/
structure PassedArray where
  /-- The pointer and the size. -/
  view : View
  /-- The bytes in view. -/
  bytes : Bytes
  deriving DecidableEq, Repr

/-- Whether an array promises bytes but points nowhere. -/
def PassedArray.unreadable (a : PassedArray) : Bool := a.view.address == 0 && a.view.size > 0

namespace Action

/-- The warning that a device did not take what was printed. -/
def printingFailed (reason : String) : Log.Record :=
  ⟨.warn, .output, "stdout write failed: " ++ reason⟩

/-- Prints bytes.  A device that does not take them is no reason to fail. -/
def print (bs : Bytes) : Action Unit := fun p =>
  let (sink, failure) := p.sink.print bs
  let p' := { p with sink }
  .ok () <| match failure with
    | none => p'
    | some reason => p'.log (printingFailed reason)

/-- Prints the rendering of a format, and answers its length. -/
def printFormatted (fmt : Bytes) (args : List Format.Argument) :
    Action (Except Format.Failure Nat) :=
  match formatInto [] fmt args with
  | (out, .ok n) => do
    print out
    return .ok n
  | (_, .error f) => return .error f

/-- Prints an array. -/
def printArray (a : PassedArray) : Action Unit :=
  if a.unreadable then abortWith (.nullPointer "print array") else print a.bytes

/-- Prints the rendering of a format with arguments as a compiled program passes them: a string that
ends at its first NUL byte, a vector of arguments, and their number.  Either pointer may be null. -/
def printArguments (fmt : Option Bytes) (args : Option (List Format.RawArgument)) (count : UInt64) :
    Action Unit := do
  match fmt with
  | none => abortWith (.nullPointer "format")
  | some fmt =>
    if args.isNone && count > 0 then abortWith (.nullPointer "format arguments")
    let passed := (args.getD []).take count.toNat
    let decoded ← orAbort (Format.RawArgument.decodeAll 0 passed)
    match ← printFormatted (untilNul fmt) decoded with
    | .ok _ => return ()
    | .error (.error e) => abortWith (.format e)
    | .error (.panic p) => abortOnPanic p

/-- The size of the buffer that a variadic call tries first. -/
def smallSize : Nat := 256

/-- Prints the first bytes of a buffer. -/
def printBuffer (address : UInt64) (buffer : Bytes) (n : Nat) : Action Unit :=
  printArray ⟨⟨address, UInt64.ofNat n⟩, buffer.take n⟩

/-- Prints the rendering that a host makes of a format.  A rendering that does not fit the small
buffer is made again, into a buffer of the right size. -/
def printThrough {Arguments : Type} (host : Variadic.Host Arguments) (fmt : Option Bytes)
    (args : Arguments) : Action Unit :=
  match fmt with
  | none => abort (Text.Utf8.encode "null pointer passed as format")
  | some fmt =>
    let (result, small) := host.format smallSize fmt args
    if result < 0 then abort (Text.Utf8.encode "au_printf: invalid format")
    else
      let n := result.toInt.toNat
      if n < smallSize then printBuffer Program.somewhere small n
      else
        let address := host.allocate (n + 1)
        if address = 0 then abort (Text.Utf8.encode "au_printf: out of memory")
        else printBuffer address (host.format (n + 1) fmt args).2 n

/-- Prints the rendering of a format with untagged arguments, which the platform makes. -/
def printVariadic (fmt : Option Bytes) (args : List Variadic.Argument) : Action Unit := do
  printThrough (← get).platform.formatter fmt args

/-- What is said of an array that should explain why the process ends and cannot be read. -/
def unreadableMessage : Bytes := Text.Utf8.encode "abort called with an unreadable message"

/-- Ends the process with an array as its last words. -/
def abortArray {α : Type} (a : PassedArray) : Action α :=
  abort (if a.unreadable then unreadableMessage else a.bytes)

end Action

end RuntimeSupport

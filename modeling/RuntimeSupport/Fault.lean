import RuntimeSupport.Format.Error
import RuntimeSupport.Settings

/-!
Faults: why an operation of the library is refused.  Every fault has a message, which is all that a
process prints before a fault ends it.
-/

namespace RuntimeSupport

/-- Why an operation is refused. -/
inductive Fault
  /-- An element does not lie inside its view. -/
  | indexOutOfBounds (index elemSize size : UInt64)
  /-- Elements without size cannot be told apart. -/
  | zeroElementSize
  /-- The size of a block does not fit a word. -/
  | sizeOverflow (count elemSize : UInt64)
  /-- The allocator has no block of this size to give. -/
  | allocationFailed (bytes : UInt64)
  /-- There is no argument with this index. -/
  | argumentOutOfRange (index count : Nat)
  /-- The arguments are captured once and for all. -/
  | argumentsAlreadyCaptured
  /-- There are no arguments before they are captured. -/
  | argumentsNotCaptured
  /-- A count of arguments is negative. -/
  | invalidArgumentCount (count : Int64)
  /-- A pointer that must point somewhere is null. -/
  | nullPointer (what : String)
  /-- Formatting failed. -/
  | format (e : Format.Error)
  /-- The settings are invalid. -/
  | settings (e : Settings.Error)
  deriving DecidableEq, Repr

/-- Who is to blame for a fault. -/
inductive FaultClass
  /-- The caller broke a rule. -/
  | contractViolation
  /-- There was not enough of something. -/
  | resourceExhaustion
  deriving DecidableEq, Repr

namespace Fault

/-- Who is to blame for a fault. -/
def faultClass : Fault → FaultClass
  | sizeOverflow .. | allocationFailed .. => .resourceExhaustion
  | _ => .contractViolation

/-- The text that describes a fault. -/
def message : Fault → String
  | indexOutOfBounds index elemSize size =>
    "array index out of bounds: index " ++ Numeral.word index ++ " with element size "
      ++ Numeral.word elemSize ++ " in a view of " ++ Numeral.word size ++ " bytes"
  | zeroElementSize => "element size must be non-zero"
  | sizeOverflow count elemSize =>
    "allocation size overflow: " ++ Numeral.word count ++ " elements of " ++ Numeral.word elemSize
      ++ " bytes"
  | allocationFailed bytes => "allocation of " ++ Numeral.word bytes ++ " bytes failed"
  | argumentOutOfRange index count =>
    "argument index " ++ Numeral.decimal index ++ " out of range: " ++ Numeral.decimal count
      ++ " arguments captured"
  | argumentsAlreadyCaptured => "command-line arguments already captured"
  | argumentsNotCaptured => "command-line arguments queried before capture"
  | invalidArgumentCount count => "invalid argument count " ++ Numeral.signedDecimal count.toInt
  | nullPointer what => "null pointer passed as " ++ what
  | format e => "format error: " ++ e.message
  | settings e => "configuration error: " ++ e.message

end Fault

end RuntimeSupport

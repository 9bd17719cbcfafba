import RuntimeSupport.Numeral

/-!
Why a format is refused, and what is said about it.
-/

namespace RuntimeSupport.Format

/-- Why a format is refused.  Positions count arguments and offsets count bytes of the format, both
from zero; an offset is that of the percent sign of the directive at fault. -/
inductive Error
  /-- A directive asks for an argument past the last one. -/
  | missingArgument (position : Nat)
  /-- The kind of an argument does not suit the conversion, or the `*` of a width or precision. -/
  | argumentMismatch (position : Nat) (conversion : Char)
  /-- No conversion has this letter. -/
  | unknownConversion (conversion : Char) (offset : Nat)
  /-- The format ends inside a directive. -/
  | incompleteDirective (offset : Nat)
  /-- A raw argument has a kind that is not defined. -/
  | unknownArgumentKind (position : Nat) (kind : Int32)
  /-- The format is exhausted and arguments are left over. -/
  | unusedArguments (used supplied : Nat)
  deriving DecidableEq, Repr

open Numeral in
/-- The text that describes an error. -/
def Error.message : Error → String
  | .missingArgument position => "missing argument for directive " ++ decimal position
  | .argumentMismatch position conversion =>
    "argument " ++ decimal position ++ " cannot be formatted with %" ++ conversion.toString
  | .unknownConversion conversion offset =>
    "unknown conversion %" ++ conversion.toString ++ " at byte " ++ decimal offset
  | .incompleteDirective offset => "incomplete directive at byte " ++ decimal offset
  | .unknownArgumentKind position kind =>
    "argument " ++ decimal position ++ " has unknown kind " ++ signedDecimal kind.toInt
  | .unusedArguments used supplied =>
    decimal supplied ++ " arguments supplied but only " ++ decimal used ++ " used"

/-- Why rendering stops without an answer: the output would be too long. -/
inductive Panic
  /-- A buffer would exceed the largest length of a buffer. -/
  | capacityOverflow
  /-- A length would not even fit a word. -/
  | arithmeticOverflow
  deriving DecidableEq, Repr

/-- The text of a panic. -/
def Panic.text : Panic → String
  | .capacityOverflow => "capacity overflow"
  | .arithmeticOverflow => "attempt to add with overflow"

/-- How formatting fails. -/
inductive Failure
  /-- The format does not suit its arguments. -/
  | error (e : Error)
  /-- The output would be too long. -/
  | panic (p : Panic)
  deriving DecidableEq, Repr

end RuntimeSupport.Format

import RuntimeSupport.Ascii
import RuntimeSupport.Text.Parts

/-!
Addresses in traces.  Where a block lies differs from run to run and is nothing that an answer may
depend on; so a report shows no address that a trace tells.
-/

namespace RuntimeSupport.Log

/-- How much of an address has been read. -/
inductive AddressPart
  /-- Nothing. -/
  | nothing
  /-- The zero that it starts with. -/
  | zero
  /-- The zero and the letter after it. -/
  | marker
  /-- Some of its digits. -/
  | digits
  deriving DecidableEq, Repr

/-- Whether a byte is a hexadecimal digit. -/
def isHexDigit (b : UInt8) : Bool :=
  Ascii.isDigit b || (Ascii.code 'a' ≤ b && b ≤ Ascii.code 'f')
    || (Ascii.code 'A' ≤ b && b ≤ Ascii.code 'F')

/-- How much of an address has been read after one more byte. -/
def AddressPart.next (part : AddressPart) (b : UInt8) : AddressPart :=
  if (part = .marker || part = .digits) && isHexDigit b then .digits
  else if b = Ascii.code '0' then .zero
  else if part = .zero && b = Ascii.code 'x' then .marker
  else .nothing

/-- A text of which some has been read, with a star for the digits of each address. -/
def hideDigits (part : AddressPart) : Bytes → Bytes
  | [] => []
  | b :: bs =>
    let part' := part.next b
    let rest := hideDigits part' bs
    if part' = .digits then if part = .digits then rest else Ascii.code '*' :: rest
    else b :: rest

/-- What the line of a trace starts with. -/
def traceStart : Bytes := Ascii.bytes "[TRACE"

/-- A text with the addresses hidden that its traces tell. -/
def hideAddresses (bs : Bytes) : Bytes :=
  let newline := Ascii.code '\n'
  Text.join newline <| (Text.split newline bs).map fun line =>
    if traceStart.isPrefixOf line then hideDigits .nothing line else line

example : hideAddresses (Ascii.bytes "[TRACE] 0x10: 0x\n0x2") =
    Ascii.bytes "[TRACE] 0x*: 0x\n0x2" := by decide

end RuntimeSupport.Log

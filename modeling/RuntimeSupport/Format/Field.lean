import RuntimeSupport.Numeral
import RuntimeSupport.Format.Argument
import RuntimeSupport.Format.Directive

/-!
A field is what one conversion writes, before it is spelled out: a lead (a sign or a radix mark),
zeros asked for by a precision, a body, and the fill that brings it to its width.
`Conversion.field?` gives the field of each conversion and refuses an argument of the wrong kind.
-/

namespace RuntimeSupport.Format

open Ascii

/-- Where a field that is narrower than its width is filled. -/
inductive Fill
  /-- Spaces after everything else. -/
  | trailing
  /-- Zeros between the lead and the digits. -/
  | zeros
  /-- Spaces before everything else. -/
  | leading
  deriving DecidableEq, Repr

/-- What one conversion writes. -/
structure Field where
  /-- A sign or a radix mark. -/
  lead : Bytes
  /-- The number of zeros before the body. -/
  zeros : Nat
  /-- The digits or the text. -/
  body : Bytes
  /-- The least length of the whole field. -/
  width : UInt64
  /-- How a shorter field is filled. -/
  fill : Fill
  deriving DecidableEq, Repr

/-- Text with neither lead nor fill. -/
def Field.plain (bs : Bytes) : Field := ⟨[], 0, bs, 0, .leading⟩

/-- The length of a field without its fill. -/
def Field.contentLength (f : Field) : Nat := f.lead.length + f.zeros + f.body.length

/-- The number of bytes that fill a field. -/
def Field.padding (f : Field) : Nat := f.width.toNat - f.contentLength

/-- The form that a directive asks for, with every `*` replaced by its value. -/
structure Layout where
  /-- The flags. -/
  flags : Flags
  /-- The width. -/
  width : UInt64
  /-- The precision. -/
  precision : Option UInt64
  deriving DecidableEq, Repr

/-- Where a number is filled: zeros need the flag and the absence of a precision. -/
def Layout.numberFill (l : Layout) : Fill :=
  if l.flags.left then .trailing
  else if l.flags.zero && l.precision.isNone then .zeros
  else .leading

/-- Where text is filled. -/
def Layout.textFill (l : Layout) : Fill :=
  if l.flags.left then .trailing else .leading

/-- The sign of a number. -/
def Flags.sign (f : Flags) (v : Int64) : Bytes :=
  if v < 0 then [code '-']
  else if f.plus then [code '+']
  else if f.space then [code ' ']
  else []

/-- The digits that a number needs: none for zero with precision zero. -/
def Layout.digits (l : Layout) (r : Numeral.Radix) (upper : Bool) (n : Nat) : Bytes :=
  if n = 0 ∧ l.precision = some 0 then [] else Numeral.ascii r upper n

/-- The number of zeros that bring digits to the precision. -/
def Layout.leadingZeros (l : Layout) (digits : Bytes) : Nat :=
  match l.precision with
  | none => 0
  | some p => p.toNat - digits.length

/-- A number with the given lead. -/
def Layout.number (l : Layout) (lead digits : Bytes) : Field :=
  ⟨lead, l.leadingZeros digits, digits, l.width, l.numberFill⟩

/-- A signed number in decimal. -/
def Layout.signed (l : Layout) (v : Int64) : Field :=
  l.number (l.flags.sign v) (l.digits .decimal false v.toInt.natAbs)

/-- An unsigned number in decimal. -/
def Layout.unsigned (l : Layout) (v : UInt64) : Field :=
  l.number [] (l.digits .decimal false v.toNat)

/-- An unsigned number in hexadecimal; the radix mark is left out for zero. -/
def Layout.hexadecimal (l : Layout) (upper : Bool) (v : UInt64) : Field :=
  let mark := if l.flags.alternate ∧ v ≠ 0 then bytes (if upper then "0X" else "0x") else []
  l.number mark (l.digits .hexadecimal upper v.toNat)

/-- An unsigned number in octal; the radix mark is a zero in front, unless there is one already. -/
def Layout.octal (l : Layout) (v : UInt64) : Field :=
  let f := l.number [] (l.digits .octal false v.toNat)
  if l.flags.alternate ∧ f.zeros = 0 ∧ f.body.head? ≠ some (code '0') then { f with zeros := 1 }
  else f

/-- One byte. -/
def Layout.character (l : Layout) (b : UInt8) : Field := ⟨[], 0, [b], l.width, l.textFill⟩

/-- A run of bytes, cut to the precision. -/
def Layout.string (l : Layout) (bs : Bytes) : Field :=
  let body := match l.precision with
    | none => bs
    | some p => bs.take p.toNat
  ⟨[], 0, body, l.width, l.textFill⟩

/-- An address in hexadecimal, always marked, whatever the precision. -/
def Layout.pointer (l : Layout) (v : UInt64) : Field :=
  ⟨bytes "0x", 0, Numeral.ascii .hexadecimal false v.toNat, l.width, l.textFill⟩

/-- The field that a conversion writes for an argument, unless the argument has the wrong kind. -/
def Conversion.field? (l : Layout) (a : Argument) : Conversion → Option Field
  | decimal | integer => a.signed?.map l.signed
  | unsigned => a.unsigned?.map l.unsigned
  | lowerHex => a.unsigned?.map (l.hexadecimal false)
  | upperHex => a.unsigned?.map (l.hexadecimal true)
  | octal => a.unsigned?.map l.octal
  | character => a.octet?.map l.character
  | string => a.bytes?.map l.string
  | pointer => a.address?.map l.pointer

end RuntimeSupport.Format

import RuntimeSupport.Word

/-!
The arguments of a format.  Each carries its own kind; a conversion asks for the reading it needs
and is refused if the kind does not offer it.
-/

namespace RuntimeSupport.Format

/-- An argument of a format. -/
inductive Argument
  /-- A signed integer. -/
  | int (v : Int64)
  /-- An unsigned integer. -/
  | uint (v : UInt64)
  /-- A character, which is one byte. -/
  | char (code : UInt8)
  /-- A run of bytes, which need not be text and may hold NUL. -/
  | bytes (bs : Bytes)
  /-- An address. -/
  | pointer (address : UInt64)
  deriving DecidableEq, Repr

namespace Argument

/-- The argument as a signed number; an unsigned one is read in two's complement. -/
def signed? : Argument → Option Int64
  | .int v => some v
  | .uint v => some v.toInt64
  | .char c => some (Int64.ofNat c.toNat)
  | .bytes _ | .pointer _ => none

/-- The argument as an unsigned number; a signed one is taken modulo 2^64. -/
def unsigned? : Argument → Option UInt64
  | .int v => some v.toUInt64
  | .uint v => some v
  | .char c => some c.toUInt64
  | .bytes _ | .pointer _ => none

/-- The argument as one byte, the low one of a number. -/
def octet? : Argument → Option UInt8
  | .int v => some v.toUInt64.toUInt8
  | .uint v => some v.toUInt8
  | .char c => some c
  | .bytes _ | .pointer _ => none

/-- The argument as a run of bytes. -/
def bytes? : Argument → Option Bytes
  | .bytes bs => some bs
  | .int _ | .uint _ | .char _ | .pointer _ => none

/-- The argument as an address. -/
def address? : Argument → Option UInt64
  | .pointer a => some a
  | .uint v => some v
  | .int _ | .char _ | .bytes _ => none

/-- The argument as the value of a `*`; an unsigned number past the signed range counts as the
largest signed one. -/
def star? : Argument → Option Int64
  | .int v => some v
  | .uint v => some (if v.toNat < 0x8000_0000_0000_0000 then v.toInt64 else Int64.maxValue)
  | .char _ | .bytes _ | .pointer _ => none

end Argument

end RuntimeSupport.Format

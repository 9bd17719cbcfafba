import RuntimeSupport.Ascii

/-!
The grammar of a directive: a percent sign, flags, a width, a precision after a point, length
modifiers without effect, and the letter of a conversion.

Reading never looks at arguments and never fails.  It takes the longest stretch that fits each part
in turn and records in `Tail` how the directive ends, so that whoever walks the directives decides
what is an error and when.
-/

namespace RuntimeSupport.Format

open Ascii

/-- The flags of a directive. -/
structure Flags where
  /-- Fill after the body (`-`). -/
  left : Bool := false
  /-- Fill with zeros (`0`). -/
  zero : Bool := false
  /-- Sign a number that is not negative with `+`. -/
  plus : Bool := false
  /-- Sign a number that is not negative with a space. -/
  space : Bool := false
  /-- Mark the radix (`#`). -/
  alternate : Bool := false
  deriving DecidableEq, Repr

/-- The flags with the one that a byte stands for, if it stands for one. -/
def Flags.add? (f : Flags) (b : UInt8) : Option Flags :=
  if b = code '-' then some { f with left := true }
  else if b = code '0' then some { f with zero := true }
  else if b = code '+' then some { f with plus := true }
  else if b = code ' ' then some { f with space := true }
  else if b = code '#' then some { f with alternate := true }
  else none

/-- Reads flags as long as there are any. -/
def Flags.read (f : Flags) : Bytes → Flags × Bytes
  | [] => (f, [])
  | b :: rest =>
    match f.add? b with
    | some f' => f'.read rest
    | none => (f, b :: rest)

/-- Reads decimal digits as long as there are any, onto the number read so far.  A number past the
largest word counts as the largest word. -/
def readDecimal (n : UInt64) : Bytes → UInt64 × Bytes
  | [] => (n, [])
  | b :: rest =>
    if isDigit b then readDecimal (Word.saturate (n.toNat * 10 + digitValue b)) rest
    else (n, b :: rest)

/-- A width or a precision as it is written. -/
inductive Amount
  /-- A decimal numeral; no digits at all stand for zero. -/
  | number (n : UInt64)
  /-- A `*`, whose value is the next argument. -/
  | star
  deriving DecidableEq, Repr

/-- Reads a width or a precision. -/
def Amount.read : Bytes → Amount × Bytes
  | [] => (.number 0, [])
  | b :: rest =>
    if b = code '*' then (.star, rest)
    else
      let r := readDecimal 0 (b :: rest)
      (.number r.1, r.2)

/-- Reads a precision, if a point announces one. -/
def readPrecision : Bytes → Option Amount × Bytes
  | [] => (none, [])
  | b :: rest =>
    if b = code '.' then
      let r := Amount.read rest
      (some r.1, r.2)
    else (none, b :: rest)

/-- Whether a byte is a length modifier.  All numbers have 64 bits, so these have no effect. -/
def isLengthModifier (b : UInt8) : Bool :=
  b = code 'h' || b = code 'l' || b = code 'z' || b = code 'j' || b = code 't'

/-- The conversions, which say how an argument is written. -/
inductive Conversion
  /-- A signed number in decimal (`d`). -/
  | decimal
  /-- A signed number in decimal (`i`). -/
  | integer
  /-- An unsigned number in decimal (`u`). -/
  | unsigned
  /-- An unsigned number in hexadecimal, with lower-case letters (`x`). -/
  | lowerHex
  /-- An unsigned number in hexadecimal, with upper-case letters (`X`). -/
  | upperHex
  /-- An unsigned number in octal (`o`). -/
  | octal
  /-- One byte (`c`). -/
  | character
  /-- A run of bytes (`s`). -/
  | string
  /-- An address (`p`). -/
  | pointer
  deriving DecidableEq, Repr

namespace Conversion

/-- The letter of a conversion. -/
def letter : Conversion → Char
  | decimal => 'd'
  | integer => 'i'
  | unsigned => 'u'
  | lowerHex => 'x'
  | upperHex => 'X'
  | octal => 'o'
  | character => 'c'
  | string => 's'
  | pointer => 'p'

/-- All conversions. -/
def all : List Conversion :=
  [decimal, integer, unsigned, lowerHex, upperHex, octal, character, string, pointer]

/-- The conversion that a byte is the letter of, if it is. -/
def ofByte? (b : UInt8) : Option Conversion := all.find? fun conv => b = code conv.letter

theorem ofByte?_code_letter (conv : Conversion) : ofByte? (code conv.letter) = some conv := by
  cases conv <;> decide

end Conversion

/-- How a directive ends. -/
inductive Tail
  /-- The format ends before the letter. -/
  | missing
  /-- A second percent sign, which stands for itself and takes no argument. -/
  | percent
  /-- A byte that is not the letter of a conversion. -/
  | unknown (b : UInt8)
  /-- The letter of a conversion. -/
  | conversion (conv : Conversion)
  deriving DecidableEq, Repr

/-- How a directive that ends in the given byte ends. -/
def Tail.ofByte (b : UInt8) : Tail :=
  if b = code '%' then .percent
  else
    match Conversion.ofByte? b with
    | some conv => .conversion conv
    | none => .unknown b

/-- Reads the end of a directive. -/
def Tail.read : Bytes → Tail × Bytes
  | [] => (.missing, [])
  | b :: rest => (.ofByte b, rest)

/-- A directive as it is written, length modifiers apart. -/
structure Directive where
  /-- The flags, which may be repeated. -/
  flags : Flags
  /-- The width; zero if none is written. -/
  width : Amount
  /-- The precision, if there is a point. -/
  precision : Option Amount
  /-- How the directive ends. -/
  tail : Tail
  deriving DecidableEq, Repr

/-- Reads what follows the percent sign of a directive; answers also what follows the directive. -/
def Directive.read (bs : Bytes) : Directive × Bytes :=
  let flags := Flags.read {} bs
  let width := Amount.read flags.2
  let precision := readPrecision width.2
  let tail := Tail.read (precision.2.dropWhile isLengthModifier)
  (⟨flags.1, width.1, precision.1, tail.1⟩, tail.2)

theorem Flags.length_read_le (f : Flags) (bs : Bytes) : (f.read bs).2.length ≤ bs.length := by
  fun_induction Flags.read f bs <;> simp_all
  omega

theorem length_readDecimal_le (n : UInt64) (bs : Bytes) :
    (readDecimal n bs).2.length ≤ bs.length := by
  fun_induction readDecimal n bs <;> simp_all
  omega

theorem Amount.length_read_le (bs : Bytes) : (Amount.read bs).2.length ≤ bs.length := by
  cases bs with
  | nil => simp [Amount.read]
  | cons b rest =>
    simp only [Amount.read]
    split
    · simp
    · exact length_readDecimal_le 0 (b :: rest)

theorem length_readPrecision_le (bs : Bytes) : (readPrecision bs).2.length ≤ bs.length := by
  cases bs with
  | nil => simp [readPrecision]
  | cons b rest =>
    simp only [readPrecision]
    split
    · exact Nat.le_succ_of_le (Amount.length_read_le rest)
    · simp

theorem Tail.length_read_le (bs : Bytes) : (Tail.read bs).2.length ≤ bs.length := by
  cases bs <;> simp [Tail.read]

theorem Directive.length_read_le (bs : Bytes) : (Directive.read bs).2.length ≤ bs.length := by
  have h₁ := Flags.length_read_le {} bs
  have h₂ := Amount.length_read_le (Flags.read {} bs).2
  have h₃ := length_readPrecision_le (Amount.read (Flags.read {} bs).2).2
  have h₄ := (List.dropWhile_sublist (p := isLengthModifier)
    (l := (readPrecision (Amount.read (Flags.read {} bs).2).2).2)).length_le
  have h₅ := Tail.length_read_le
    ((readPrecision (Amount.read (Flags.read {} bs).2).2).2.dropWhile isLengthModifier)
  show (Tail.read _).2.length ≤ _
  omega

end RuntimeSupport.Format

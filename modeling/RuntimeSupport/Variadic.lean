import RuntimeSupport.Arguments
import RuntimeSupport.Format.Buffer

/-!
Formatting with untagged arguments, as a variadic call passes them.  The rendering goes to a buffer
of the caller, which takes as much of it as it has room for; the caller learns the full length and
can try again with a larger buffer.

It is the host that renders, and programs run on any host (`Host`).  `Host.own` is the one that this
library brings along: it renders text, characters, addresses and whole numbers of 8 to 64 bits, and
refuses every other format.
-/

namespace RuntimeSupport.Variadic

open Format

/-- An argument of a variadic call. -/
inductive Argument
  /-- A machine word. -/
  | word (w : UInt64)
  /-- A pointer to a string. -/
  | text (bs : Bytes)
  /-- A floating-point number, by its bits. -/
  | real (bits : UInt64)
  deriving DecidableEq, Repr

/-- What a variadic call relies on, for arguments of a given type. -/
structure Host (Arguments : Type) where
  /-- Renders a format into a buffer with room for a number of bytes.  Answers the length of the
  full rendering, which is negative if there is none, and what the buffer holds then. -/
  format : (size : Nat) → (fmt : Bytes) → (args : Arguments) → Int32 × Bytes
  /-- The address of a new buffer with room for a number of bytes, or null. -/
  allocate : (size : Nat) → UInt64

/-! ## The host of this library -/

/-- The largest length, width or precision that a call can express. -/
def maxInt : Nat := 0x7FFF_FFFF

/-- Takes the next argument as a word. -/
def takeWord : List Argument → Option (UInt64 × List Argument)
  | .word w :: rest => some (w, rest)
  | _ => none

/-- A width or a precision, and the arguments left.  A star reads the low half of a word. -/
def amount (args : List Argument) : Amount → Option (Int × List Argument)
  | .number n => if n.toNat ≤ maxInt then some (n.toNat, args) else none
  | .star => (takeWord args).map fun (w, rest) => (w.toUInt32.toInt32.toInt, rest)

/-- The form that a directive asks for.  A negative width is one to fill after, and a negative
precision is none at all. -/
def layout (d : Directive) (args : List Argument) : Option (Layout × List Argument) := do
  let (width, args) ← amount args d.width
  let flags := { d.flags with left := d.flags.left || width < 0 }
  match d.precision with
  | none => some (⟨flags, UInt64.ofNat width.natAbs, none⟩, args)
  | some p => do
    let (precision, args) ← amount args p
    let precision := if precision < 0 then none else some (UInt64.ofNat precision.toNat)
    some (⟨flags, UInt64.ofNat width.natAbs, precision⟩, args)

/-- The length modifiers of a directive, of which the bytes after its percent sign are given. -/
def modifiers (bs : Bytes) : Bytes :=
  (readPrecision (Amount.read (Flags.read {} bs).2).2).2.takeWhile isLengthModifier

/-- How many values a number with given length modifiers can have. -/
def modulus? (modifiers : Bytes) : Option Nat :=
  if modifiers = [] then some 0x1_0000_0000
  else if modifiers = Ascii.bytes "hh" then some 0x100
  else if modifiers = Ascii.bytes "h" then some 0x1_0000
  else if modifiers ∈ ["l", "ll", "j", "z", "t"].map Ascii.bytes then
    some 0x1_0000_0000_0000_0000
  else none

/-- What is left of a word in an unsigned number with so many values. -/
def unsigned (modulus : Nat) (w : UInt64) : Format.Argument := .uint (.ofNat (w.toNat % modulus))

/-- What is left of a word in a signed number with so many values. -/
def signed (modulus : Nat) (w : UInt64) : Format.Argument :=
  .int (.ofInt (Int.bmod w.toNat modulus))

/-- An address is written as a marked hexadecimal number; a null one has a name instead. -/
def pointer (l : Layout) (v : UInt64) : Field :=
  if v = 0 then { l with precision := none }.string (Ascii.bytes "(nil)")
  else l.number (l.flags.sign 0 ++ Ascii.bytes "0x") (l.digits .hexadecimal false v.toNat)

/-- The field that a conversion writes.  A string takes a pointer and everything else a word, of
which a number is as much as its length modifiers say. -/
def field? (l : Layout) (modifiers : Bytes) (conv : Conversion) : Argument → Option Field
  | .text bs => if conv = .string ∧ modifiers = [] then some (l.string bs) else none
  | .word w =>
    match conv with
    | .string => none
    | .pointer => if modifiers = [] then some (pointer l w) else none
    | .character => if modifiers = [] then conv.field? l (.uint w) else none
    | .decimal | .integer => do conv.field? l (signed (← modulus? modifiers) w)
    | .unsigned | .lowerHex | .upperHex | .octal => do
      conv.field? l (unsigned (← modulus? modifiers) w)
  | .real _ => none

/-- The fields of some segments of a format, if they are valid and their arguments are those that
they ask for. -/
def fields (fmt : Bytes) (args : List Argument) : List Segment → Option (List Field)
  | [] => some []
  | .literal b :: rest => (fields fmt args rest).map (.plain [b] :: ·)
  | .directive offset d :: rest => do
    let (l, args) ← layout d args
    match d.tail with
    | .missing | .unknown _ => none
    | .percent => (fields fmt args rest).map (.plain [Ascii.code '%'] :: ·)
    | .conversion conv =>
      match args with
      | [] => none
      | a :: args => do
        let f ← field? l (modifiers (fmt.drop (offset + 1))) conv a
        let others ← fields fmt args rest
        some (f :: others)

/-- The full rendering, unless the format is invalid or the length cannot be expressed. -/
def render (fmt : Bytes) (args : List Argument) : Option Bytes := do
  let fs ← fields fmt args (segments 0 fmt)
  let pieces := fs.flatMap Field.pieces
  if (pieces.map Piece.length).foldr (· + ·) 0 ≤ maxInt then some (pieces.flatMap Piece.bytes)
  else none

/-- What a buffer of the given size receives: as much as fits, and a final NUL. -/
def store (size : Nat) (rendering : Bytes) : Bytes := rendering.take (size - 1) ++ [0]

/-- The host of this library, which has memory for every buffer. -/
def Host.own : Host (List Argument) where
  format size fmt args :=
    match render (untilNul fmt) args with
    | some rendering => (Int32.ofNat rendering.length, store size rendering)
    | none => (-1, [])
  -- which address it is never shows, as long as it is not null
  allocate _ := 16

example : render (Ascii.bytes "%hhd %hd %u %lx") [.word 257, .word 0x8000, .word 0xffffffffffffffff,
    .word 0xffffffffffffffff] = some (Ascii.bytes "1 -32768 4294967295 ffffffffffffffff") := by
  decide +kernel

end RuntimeSupport.Variadic

import RuntimeSupport.Format.Rendering

/-!
Writing a rendering behind what a buffer already holds.  A buffer never exceeds `maxLength` bytes,
and the length of a buffer with its fill is first computed as a word; `emit` says what is written
before either limit is met.
-/

namespace RuntimeSupport.Format

/-- The largest length of a buffer. -/
def maxLength : Nat := 0x7FFF_FFFF_FFFF_FFFF

/-- A stretch of output that is appended at once. -/
inductive Piece
  /-- Given bytes. -/
  | text (bs : Bytes)
  /-- One byte, repeated. -/
  | fill (b : UInt8) (count : Nat)
  deriving DecidableEq, Repr

/-- The number of bytes of a piece. -/
def Piece.length : Piece → Nat
  | .text bs => bs.length
  | .fill _ count => count

/-- The bytes of a piece. -/
def Piece.bytes : Piece → Bytes
  | .text bs => bs
  | .fill b count => List.replicate count b

/-- What goes wrong when a piece is appended to a buffer of the given length. -/
def Piece.overflow? (length : Nat) (p : Piece) : Option Panic :=
  match p with
  | .text bs => if maxLength < length + bs.length then some .capacityOverflow else none
  | .fill _ count =>
    if 0x1_0000_0000_0000_0000 ≤ length + count then some .arithmeticOverflow
    else if maxLength < length + count then some .capacityOverflow
    else none

/-- The pieces of a field, in order. -/
def Field.pieces (f : Field) : List Piece :=
  let digits := [.fill (Ascii.code '0') f.zeros, .text f.body]
  match f.fill with
  | .trailing => .text f.lead :: (digits ++ [.fill (Ascii.code ' ') f.padding])
  | .zeros => .text f.lead :: .fill (Ascii.code '0') f.padding :: digits
  | .leading => .fill (Ascii.code ' ') f.padding :: .text f.lead :: digits

/-- Appends pieces to a buffer of the given length: the bytes appended, and what stopped the
writing. -/
def emitPieces (length : Nat) : List Piece → Bytes × Option Panic
  | [] => ([], none)
  | p :: rest =>
    match p.overflow? length with
    | some panic => ([], some panic)
    | none =>
      let r := emitPieces (length + p.length) rest
      (p.bytes ++ r.1, r.2)

/-- Appends a field.  Its digits are laid out before anything is written, and must fit a buffer of
their own. -/
def Field.emit (length : Nat) (f : Field) : Bytes × Option Panic :=
  if maxLength < f.zeros + f.body.length then ([], some .capacityOverflow)
  else emitPieces length f.pieces

/-- Appends fields. -/
def emit (length : Nat) : List Field → Bytes × Option Panic
  | [] => ([], none)
  | f :: rest =>
    match f.emit length with
    | (bs, some panic) => (bs, some panic)
    | (bs, none) =>
      let r := emit (length + bs.length) rest
      (bs ++ r.1, r.2)

end RuntimeSupport.Format

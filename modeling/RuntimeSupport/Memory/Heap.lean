import RuntimeSupport.Memory.Counters
import RuntimeSupport.Table
import RuntimeSupport.View

/-!
The heap: memory blocks that are handed out zeroed, know their length, and are given back.

A block in use is a cell of the heap, found by its handle.  Its length is kept twice: in a header of
the cell, and by the `Block` that owns it.  Whoever knows only the handle goes by the header; an
owner goes by what it knows.
-/

namespace RuntimeSupport.Memory

/-- What a raw pointer to a block says: which cell it is. -/
structure Handle where
  /-- The number of the cell; no two cells ever have the same. -/
  number : Nat
  deriving DecidableEq, Repr

/-- A piece of memory in use. -/
structure Cell where
  /-- The header, which tells the length. -/
  length : UInt64
  /-- The bytes behind the header. -/
  bytes : Bytes
  deriving DecidableEq, Repr

/-- The owner of a block. -/
structure Block where
  /-- Where the block is. -/
  handle : Handle
  /-- The length of the block. -/
  length : UInt64
  deriving DecidableEq, Repr

/-- A place inside a block. -/
structure Location where
  /-- The block. -/
  handle : Handle
  /-- The distance from its start. -/
  offset : UInt64
  deriving DecidableEq, Repr

/-- All blocks in use, and what has happened to them. -/
structure Heap where
  /-- The blocks in use. -/
  cells : Table Handle Cell
  /-- The number of the next cell. -/
  fresh : Nat
  /-- What has happened so far. -/
  counters : Counters
  /-- The number of bytes that there are, headers included. -/
  capacity : Nat

/-- The number of bytes that a block takes with its header. -/
def footprint (length : UInt64) : Nat := length.toNat + 16

/-- The largest footprint that can be asked for: the largest length of an object, rounded down to a
multiple of the alignment. -/
def largestFootprint : Nat := 0x7FFF_FFFF_FFFF_FFF0

/-- The capacity of an ordinary machine: what the addresses of a process can reach. -/
def standardCapacity : Nat := 0x8000_0000_0000

namespace Cell

/-- The cell of a new block. -/
def zeroed (length : UInt64) : Cell := ⟨length, List.replicate length.toNat 0⟩

/-- The cell with another length.  What it held is kept as far as it fits, and zeros follow. -/
def resize (c : Cell) (length : UInt64) : Cell :=
  ⟨length, c.bytes.take length.toNat ++ List.replicate (length.toNat - c.length.toNat) 0⟩

end Cell

/-- The bytes of a block from an offset on, as an owner checks them. -/
def Block.range (b : Block) (offset count : UInt64) : Except Fault ByteRange :=
  match Word.add? offset count with
  | some stop =>
    if stop ≤ b.length then .ok ⟨offset, stop⟩ else .error (.indexOutOfBounds offset count b.length)
  | none => .error (.indexOutOfBounds offset count b.length)

/-- The block as a view that starts at the given address. -/
def Block.view (b : Block) (address : UInt64) : View := ⟨address, b.length⟩

namespace Heap

/-- The heap of a new process. -/
def empty (capacity : Nat) : Heap := ⟨.empty, 0, .zero, capacity⟩

/-- The cell behind a handle, if it is in use. -/
def cell? (h : Heap) (x : Handle) : Option Cell := h.cells.get? x

/-- The cell behind a handle that is in use. -/
def cell (h : Heap) (x : Handle) : Cell := (h.cell? x).getD ⟨0, []⟩

/-- The number of bytes in use, headers included. -/
def occupied (h : Heap) : Nat := (h.cells.entries.map fun e => footprint e.2.length).foldr (· + ·) 0

/-- Whether there is room for a block. -/
def Grants (h : Heap) (length : UInt64) : Prop :=
  footprint length ≤ largestFootprint ∧ h.occupied + footprint length ≤ h.capacity

instance (h : Heap) (length : UInt64) : Decidable (h.Grants length) :=
  inferInstanceAs (Decidable (_ ∧ _))

/-- Records an event. -/
def record (h : Heap) (e : Event) : Heap := { h with counters := h.counters.record e }

/-- Puts a cell into use. -/
def insert (h : Heap) (c : Cell) : Handle × Heap :=
  (⟨h.fresh⟩, { h with cells := h.cells.set ⟨h.fresh⟩ c, fresh := h.fresh + 1 })

/-- Takes a cell out of use. -/
def erase (h : Heap) (x : Handle) : Heap := { h with cells := h.cells.erase x }

/-- Replaces the bytes of a cell. -/
def setBytes (h : Heap) (x : Handle) (bs : Bytes) : Heap :=
  match h.cell? x with
  | some c => { h with cells := h.cells.set x { c with bytes := bs } }
  | none => h

/-- Writes bytes into a cell. -/
def write (h : Heap) (l : Location) (new : Bytes) : Heap :=
  h.setBytes l.handle (Region.write (h.cell l.handle).bytes l.offset.toNat new)

/-- The bytes at a place. -/
def read (h : Heap) (l : Location) (count : UInt64) : Bytes :=
  Region.read (h.cell l.handle).bytes l.offset.toNat count.toNat

/-! ## Blocks and their owners -/

/-- Hands out a block of zeros. -/
def zeroed (h : Heap) (length : UInt64) : Except Fault (Block × Heap) :=
  if h.Grants length then
    let (x, h') := h.insert (.zeroed length)
    .ok (⟨x, length⟩, h'.record (.allocated length))
  else .error (.allocationFailed length)

/-- Hands out a block for elements, all zero. -/
def allocate (h : Heap) (count elemSize : UInt64) : Except Fault (Block × Heap) := do
  let length ← Element.totalSize count elemSize
  h.zeroed length

/-- Hands out a block with the given bytes. -/
def ofBytes (h : Heap) (bs : Bytes) : Except Fault (Block × Heap) := do
  let (b, h') ← h.zeroed (Word.ofLength bs)
  return (b, h'.write ⟨b.handle, 0⟩ bs)

/-- Gives a block back. -/
def free (h : Heap) (b : Block) : Heap := (h.erase b.handle).record (.freed b.length)

/-- Changes the length of a block, which moves.  If there is no room for it, the block is given
back. -/
def reallocate (h : Heap) (b : Block) (length : UInt64) : Except Fault Block × Heap :=
  let rest := h.erase b.handle
  if rest.Grants length then
    let (x, h') := rest.insert ((h.cell b.handle).resize length)
    (.ok ⟨x, length⟩, h'.record (.reallocated b.length length))
  else (.error (.allocationFailed length), h.free b)

/-- The owner of a block of which only the handle is known. -/
def ofRaw (h : Heap) (x : Handle) : Block := ⟨x, (h.cell x).length⟩

/-- The bytes of a block, for its owner. -/
def span (h : Heap) (b : Block) : Span := ⟨(h.cell b.handle).bytes.take b.length.toNat⟩

/-- Copies bytes into a block. -/
def copyFrom (h : Heap) (b : Block) (offset : UInt64) (new : Bytes) : Except Fault Heap := do
  let r ← b.range offset (Word.ofLength new)
  return h.write ⟨b.handle, r.start⟩ new

/-- Copies the bytes from `start` up to `stop` to another place of the same block.  The two places
may overlap: what arrives is what was there before. -/
def moveWithin (h : Heap) (b : Block) (start stop dest : UInt64) : Except Fault Heap :=
  if stop < start then .error (.indexOutOfBounds start 1 b.length)
  else do
    let source ← b.range start (stop - start)
    let target ← b.range dest (stop - start)
    return h.write ⟨b.handle, target.start⟩ (h.read ⟨b.handle, source.start⟩ (stop - start))

/-- Writes bytes to the start of an element of a block; those that do not fit the element are
dropped. -/
def writeElement (h : Heap) (b : Block) (index elemSize : UInt64) (new : Bytes) :
    Except Fault Heap := do
  let s ← (h.span b).writeElement index elemSize new
  return h.setBytes b.handle s.bytes

/-! ## Raw copies -/

/-- Copies bytes from one place to another, which may overlap: what arrives is what was there
before. -/
def moveBytes (h : Heap) (dest source : Location) (count : UInt64) : Heap :=
  h.write dest (h.read source count)

/-- The bytes that arrive when they are read one after the other and each is written before the next
one is read.  Where the destination starts inside the source, what is read there has been written
before, so the bytes up to the destination repeat. -/
def readForward (h : Heap) (dest source : Location) (count : UInt64) : Bytes :=
  let bs := h.read source count
  let gap := dest.offset.toNat - source.offset.toNat
  if dest.handle = source.handle ∧ 0 < gap ∧ gap < count.toNat then
    Region.cycle (bs.take gap) bs.length
  else bs

/-- Copies bytes from one place to another one after the other.  The places must not overlap: a byte
may already be overwritten when its turn comes. -/
def copyBytes (h : Heap) (dest source : Location) (count : UInt64) : Heap :=
  h.write dest (h.readForward dest source count)

end Heap

end RuntimeSupport.Memory

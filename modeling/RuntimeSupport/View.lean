import RuntimeSupport.Element
import RuntimeSupport.Region

/-!
Views and spans.  A view is an address and a size and promises nothing about what is there; it can
turn an index into an address.  A span is the bytes themselves and can read and write elements.
Both judge an access by the same rule, so they accept the same indices.
-/

namespace RuntimeSupport

/-- A stretch of memory, described but not owned. -/
structure View where
  /-- The address of the first byte. -/
  address : UInt64
  /-- The number of bytes. -/
  size : UInt64
  deriving DecidableEq, Repr

namespace View

/-- The view of nothing. -/
def empty : View := ⟨0, 0⟩

/-- Whether there is no byte in view. -/
def isEmpty (v : View) : Bool := v.size == 0

/-- The offset of an element from the start of the view. -/
def offset (v : View) (index elemSize : UInt64) : Except Fault UInt64 := do
  let r ← Element.range v.size index elemSize
  return r.start

/-- The address of an element. -/
def index (v : View) (index elemSize : UInt64) : Except Fault UInt64 := do
  let start ← v.offset index elemSize
  return v.address + start

/-- The number of whole elements. -/
def elementCount (v : View) (elemSize : UInt64) : Except Fault UInt64 :=
  Element.count v.size elemSize

end View

/-- A stretch of memory together with its bytes. -/
structure Span where
  /-- The bytes. -/
  bytes : Bytes
  deriving DecidableEq, Repr

namespace Span

/-- The number of bytes. -/
def size (s : Span) : UInt64 := Word.ofLength s.bytes

/-- The view of a span that lies at the given address. -/
def view (s : Span) (address : UInt64) : View := ⟨address, s.size⟩

/-- The bytes of an element. -/
def element (s : Span) (index elemSize : UInt64) : Except Fault Bytes := do
  let r ← Element.range s.size index elemSize
  return Region.read s.bytes r.start.toNat elemSize.toNat

/-- The number of whole elements. -/
def elementCount (s : Span) (elemSize : UInt64) : Except Fault UInt64 :=
  Element.count s.size elemSize

/-- Writes bytes to the start of an element; those that do not fit the element are dropped. -/
def writeElement (s : Span) (index elemSize : UInt64) (new : Bytes) : Except Fault Span := do
  let r ← Element.range s.size index elemSize
  return ⟨Region.write s.bytes r.start.toNat (new.take elemSize.toNat)⟩

end Span

end RuntimeSupport

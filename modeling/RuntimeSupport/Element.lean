import RuntimeSupport.Fault

/-!
Elements of a buffer: which bytes the element with a given index occupies, and how many elements
there are.  All sizes are words, and no product or sum may wrap, since a wrapped one would compare
as a small number and let an access through.
-/

namespace RuntimeSupport

/-- The bytes from `start` up to, but not including, `stop`. -/
structure ByteRange where
  /-- The offset of the first byte. -/
  start : UInt64
  /-- The offset after the last byte. -/
  stop : UInt64
  deriving DecidableEq, Repr

namespace Element

/-- The bytes of the element with the given index in a buffer of `size` bytes. -/
def range (size index elemSize : UInt64) : Except Fault ByteRange :=
  if elemSize = 0 then .error .zeroElementSize
  else
    match (Word.add? index 1).bind (Word.mul? · elemSize) with
    | none => .error (.indexOutOfBounds index elemSize size)
    | some stop =>
      if stop ≤ size then .ok ⟨stop - elemSize, stop⟩
      else .error (.indexOutOfBounds index elemSize size)

/-- The number of whole elements in a buffer of `size` bytes. -/
def count (size elemSize : UInt64) : Except Fault UInt64 :=
  if elemSize = 0 then .error .zeroElementSize else .ok (size / elemSize)

/-- The number of bytes that `count` elements occupy. -/
def totalSize (count elemSize : UInt64) : Except Fault UInt64 :=
  match Word.mul? count elemSize with
  | none => .error (.sizeOverflow count elemSize)
  | some n => .ok n

end Element

end RuntimeSupport

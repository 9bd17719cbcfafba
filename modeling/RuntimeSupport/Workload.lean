import RuntimeSupport.Element
import RuntimeSupport.Format

/-!
Workloads: inputs that exercise the library.  A byte pattern in which a misplaced copy shows, every
access to the elements of a buffer, and a format that uses most conversions.
-/

namespace RuntimeSupport.Workload

/-- Bytes that count up from one and start again after 255, so that none is zero. -/
def pattern (length : Nat) : Bytes := (List.range length).map fun i => UInt8.ofNat (i % 255 + 1)

/-- The element sizes that a sweep visits. -/
def sweptSizes : List UInt64 := [1, 4, 8, 16]

/-- Every index and element size that a sweep over a buffer of `length` bytes visits. -/
def indexSweep (length : UInt64) : List (UInt64 × UInt64) :=
  sweptSizes.flatMap fun size =>
    (List.range (length / size).toNat).map fun i => (UInt64.ofNat i, size)

/-- A format with most conversions. -/
def sampleFormat : Bytes := Ascii.bytes "tick %6d: %-8s %08x %+i %c %u%%\n"

/-- Arguments for the sample format. -/
def sampleArguments : List Format.Argument :=
  [.int 1024, .bytes (Ascii.bytes "agent"), .uint 0xBEEF, .int (-17), .char (Ascii.code 'z'),
    .uint 99]

/-- The sample format with its arguments. -/
def sampleOutput : Except Format.Failure Bytes := format sampleFormat sampleArguments

example : sampleOutput = .ok (Ascii.bytes "tick   1024: agent    0000beef -17 z 99%\n") := by cbv

end RuntimeSupport.Workload

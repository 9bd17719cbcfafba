import RuntimeSupport.Format.Directive

/-!
A format as a sequence of segments: bytes that stand for themselves, and directives.  Every byte of
the format belongs to exactly one segment.
-/

namespace RuntimeSupport.Format

/-- A segment of a format. -/
inductive Segment
  /-- A byte other than a percent sign, which stands for itself. -/
  | literal (b : UInt8)
  /-- A directive, with the offset of its percent sign. -/
  | directive (offset : Nat) (d : Directive)
  deriving DecidableEq, Repr

/-- Splits a format into segments; `offset` is the offset of its first byte. -/
def segments (offset : Nat) : Bytes → List Segment
  | [] => []
  | b :: rest =>
    if b = Ascii.code '%' then
      let r := Directive.read rest
      .directive offset r.1 :: segments (offset + 1 + (rest.length - r.2.length)) r.2
    else .literal b :: segments (offset + 1) rest
termination_by fmt => fmt.length
decreasing_by
  · have := Directive.length_read_le rest
    simp only [List.length_cons]
    omega
  · simp

end RuntimeSupport.Format

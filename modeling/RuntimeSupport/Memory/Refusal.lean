/-!
Steps that are not carried out.  Some operations on memory have no defined outcome when their caller
breaks a rule; a script that would do so is refused at that step and goes on with the next one.
-/

namespace RuntimeSupport.Memory

/-- Why a step of a script is not carried out. -/
inductive Refusal
  /-- There is no owned block with this number. -/
  | noBlock
  /-- There is no raw block with this number. -/
  | noRawBlock
  /-- A plain access would leave its block. -/
  | range
  /-- The bytes to copy do not lie inside an owned block. -/
  | sourceRange
  /-- The place to copy to does not lie inside its block. -/
  | destinationRange
  /-- The two places of a copy overlap. -/
  | overlap
  deriving DecidableEq, Repr

/-- The text that describes a refusal. -/
def Refusal.message : Refusal → String
  | .noBlock => "no block"
  | .noRawBlock => "no raw block"
  | .range => "range"
  | .sourceRange => "source range"
  | .destinationRange => "destination range"
  | .overlap => "overlap"

end RuntimeSupport.Memory

import RuntimeSupport.Numeral

/-!
Counters of what happens to memory blocks.  Every event is recorded by a few updates, each of which
adds to one counter or subtracts from it; the counters are words and wrap around.
-/

namespace RuntimeSupport.Memory

/-- What has been counted so far. -/
structure Counters where
  /-- The blocks that have not been given back. -/
  liveBlocks : UInt64
  /-- The bytes of those blocks. -/
  liveBytes : UInt64
  /-- The blocks that have been handed out. -/
  allocations : UInt64
  /-- The times that a block has changed its length. -/
  reallocations : UInt64
  /-- The blocks that have been given back. -/
  frees : UInt64
  deriving DecidableEq, Repr

/-- One of the counters. -/
inductive Counter
  /-- The blocks that have not been given back. -/
  | liveBlocks
  /-- The bytes of those blocks. -/
  | liveBytes
  /-- The blocks that have been handed out. -/
  | allocations
  /-- The times that a block has changed its length. -/
  | reallocations
  /-- The blocks that have been given back. -/
  | frees
  deriving DecidableEq, Repr

/-- A change of one counter, which happens at once. -/
inductive Update
  /-- The counter grows. -/
  | add (which : Counter) (n : UInt64)
  /-- The counter shrinks. -/
  | subtract (which : Counter) (n : UInt64)
  deriving DecidableEq, Repr

/-- Something that happens to a block. -/
inductive Event
  /-- A block is handed out. -/
  | allocated (length : UInt64)
  /-- A block changes its length. -/
  | reallocated (old new : UInt64)
  /-- A block is given back. -/
  | freed (length : UInt64)
  deriving DecidableEq, Repr

/-- The updates that record an event, in order.  A change of length adds the new one before it
subtracts the old one. -/
def Event.updates : Event → List Update
  | .allocated length => [.add .allocations 1, .add .liveBlocks 1, .add .liveBytes length]
  | .reallocated old new =>
    [.add .reallocations 1, .add .liveBytes new, .subtract .liveBytes old]
  | .freed length => [.add .frees 1, .subtract .liveBlocks 1, .subtract .liveBytes length]

/-- How diagnostics show an event.  Where a block lies is not told. -/
def Event.describe : Event → String
  | .allocated length => "allocate " ++ Numeral.word length ++ " bytes at 0x*"
  | .reallocated old new =>
    "reallocate 0x* (" ++ Numeral.word old ++ " bytes) -> 0x* (" ++ Numeral.word new ++ " bytes)"
  | .freed length => "free 0x* (" ++ Numeral.word length ++ " bytes)"

namespace Counters

/-- The counters before anything has happened. -/
def zero : Counters := ⟨0, 0, 0, 0, 0⟩

/-- The value of a counter. -/
def get (s : Counters) : Counter → UInt64
  | .liveBlocks => s.liveBlocks
  | .liveBytes => s.liveBytes
  | .allocations => s.allocations
  | .reallocations => s.reallocations
  | .frees => s.frees

/-- The counters with one of them changed. -/
def modify (s : Counters) (which : Counter) (f : UInt64 → UInt64) : Counters :=
  match which with
  | .liveBlocks => { s with liveBlocks := f s.liveBlocks }
  | .liveBytes => { s with liveBytes := f s.liveBytes }
  | .allocations => { s with allocations := f s.allocations }
  | .reallocations => { s with reallocations := f s.reallocations }
  | .frees => { s with frees := f s.frees }

/-- The counters after an update. -/
def update (s : Counters) : Update → Counters
  | .add which n => s.modify which (· + n)
  | .subtract which n => s.modify which (· - n)

/-- The counters after an event. -/
def record (s : Counters) (e : Event) : Counters := e.updates.foldl update s

@[simp] theorem get_modify (s : Counters) (which c : Counter) (f : UInt64 → UInt64) :
    (s.modify which f).get c = if c = which then f (s.get which) else s.get c := by
  cases which <;> cases c <;> rfl

theorem record_allocated (s : Counters) (length : UInt64) :
    s.record (.allocated length) =
      ⟨s.liveBlocks + 1, s.liveBytes + length, s.allocations + 1, s.reallocations, s.frees⟩ :=
  rfl

theorem record_reallocated (s : Counters) (old new : UInt64) :
    s.record (.reallocated old new) =
      ⟨s.liveBlocks, s.liveBytes + new - old, s.allocations, s.reallocations + 1, s.frees⟩ :=
  rfl

theorem record_freed (s : Counters) (length : UInt64) :
    s.record (.freed length) =
      ⟨s.liveBlocks - 1, s.liveBytes - length, s.allocations, s.reallocations, s.frees + 1⟩ :=
  rfl

end Counters

end RuntimeSupport.Memory

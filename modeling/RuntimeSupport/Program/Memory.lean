import RuntimeSupport.Program.Fatal

/-!
Memory as a compiled program uses it: by pointers that may be null, and with no way to see a
failure.  Each call does what the owner of the block could do, and ends the process where that
fails.
-/

namespace RuntimeSupport.Action

open Memory

/-- Goes on with a changed heap, and reports what has happened to it. -/
def changeHeap (heap : Heap) (e : Event) : Action Unit :=
  modify fun p => { p with heap }.log ⟨.trace, .blocks, e.describe⟩

/-- The pointer to a block that was handed out; if none was, the process ends. -/
def handOut : Except Fault (Block × Heap) → Action Handle
  | .ok (b, heap) => do
    changeHeap heap (.allocated b.length)
    return b.handle
  | .error f => abortWith f

/-- A pointer to zeroed memory for elements. -/
def allocate (size count : UInt64) : Action Handle := do
  handOut ((← get).heap.allocate count size)

/-- A pointer to the same bytes in a block of another length; a null pointer stands for no bytes. -/
def reallocate (x : Option Handle) (length : UInt64) : Action Handle := do
  let heap := (← get).heap
  match x with
  | none => handOut (heap.zeroed length)
  | some x =>
    let b := heap.ofRaw x
    match heap.reallocate b length with
    | (.ok b', heap') =>
      changeHeap heap' (.reallocated b.length length)
      return b'.handle
    | (.error f, heap') =>
      changeHeap heap' (.freed b.length)
      abortWith f

/-- Gives a block back; a null pointer is left alone. -/
def free (x : Option Handle) : Action Unit := do
  match x with
  | none => return ()
  | some x =>
    let heap := (← get).heap
    let b := heap.ofRaw x
    changeHeap (heap.free b) (.freed b.length)

/-- The means of copying. -/
inductive Transfer
  /-- Between places that do not overlap. -/
  | copy
  /-- Between any places. -/
  | move
  deriving DecidableEq, Repr

/-- The name that faults call it by. -/
def Transfer.name : Transfer → String
  | .copy => "memcpy"
  | .move => "memmove"

/-- What it does to the heap. -/
def Transfer.apply : Transfer → Heap → Location → Location → UInt64 → Heap
  | .copy => Heap.copyBytes
  | .move => Heap.moveBytes

/-- Copies bytes, and answers where to.  A null pointer will do where there is nothing to copy. -/
def transfer (t : Transfer) (dest source : Option Location) (count : UInt64) :
    Action (Option Location) :=
  if count = 0 then pure dest
  else
    match dest, source with
    | none, _ => abortWith (.nullPointer (t.name ++ " destination"))
    | _, none => abortWith (.nullPointer (t.name ++ " source"))
    | some d, some s => do
      modify fun p => { p with heap := t.apply p.heap d s count }
      return dest

/-- The counters of the heap, for a caller that has room for them. -/
def counters (room : Bool) : Action Counters := do
  if room then return (← get).heap.counters
  else abortWith (.nullPointer "memory stats output")

/-- The address of an element. -/
def index (v : View) (index elemSize : UInt64) : Action UInt64 := orAbort (v.index index elemSize)

end RuntimeSupport.Action

import RuntimeSupport.Memory.Heap
import RuntimeSupport.Memory.Refusal

/-!
Scripts of memory operations.  A script names its blocks by numbers, each of which stands for a
block that it owns or for a raw pointer that it keeps.  `Session.step` carries out one step and
`Session.run` a whole script; after every step the counters of the heap are reported.
-/

namespace RuntimeSupport.Memory

/-- What a number of a script stands for. -/
inductive Slot
  /-- A block that the script owns. -/
  | owned (b : Block)
  /-- A raw pointer to a block. -/
  | raw (x : Handle)
  deriving DecidableEq, Repr

/-- A step of a script. -/
inductive Step
  /-- Only looks at the counters. -/
  | inspect
  /-- Reclaims a null pointer, which yields no block. -/
  | reclaimNull
  /-- Asks for a block of zeroed elements. -/
  | allocate (id : Nat) (count elemSize : UInt64)
  /-- Asks for a block of zeros. -/
  | zeroed (id : Nat) (length : UInt64)
  /-- Asks for a block with given bytes. -/
  | ofBytes (id : Nat) (bytes : Bytes)
  /-- Turns a raw pointer back into an owned block. -/
  | ofRaw (id : Nat)
  /-- Changes the length of a block. -/
  | reallocate (id : Nat) (length : UInt64)
  /-- Gives a block back, in words or by the end of its owner. -/
  | free (id : Nat)
  /-- Turns an owned block into a raw pointer. -/
  | intoRaw (id : Nat)
  /-- Looks at a block. -/
  | read (id : Nat)
  /-- Looks at the bytes from `start` up to `stop`. -/
  | peek (id : Nat) (start stop : UInt64)
  /-- Stores bytes without a check. -/
  | poke (id : Nat) (offset : UInt64) (bytes : Bytes)
  /-- Copies bytes into a block. -/
  | copyFrom (id : Nat) (offset : UInt64) (bytes : Bytes)
  /-- Moves bytes within a block. -/
  | moveWithin (id : Nat) (start stop dest : UInt64)
  /-- Reads an element. -/
  | element (id : Nat) (index elemSize : UInt64)
  /-- Counts the elements. -/
  | elementCount (id : Nat) (elemSize : UInt64)
  /-- Writes to an element. -/
  | writeElement (id : Nat) (index elemSize : UInt64) (bytes : Bytes)
  /-- Finds an element through a view. -/
  | viewOffset (id : Nat) (index elemSize : UInt64)
  /-- Counts the elements of a view. -/
  | viewCount (id : Nat) (elemSize : UInt64)
  /-- Copies raw bytes between places that do not overlap. -/
  | rawCopy (dest source : Nat) (offset sourceOffset count : UInt64)
  /-- Copies raw bytes between places that may overlap. -/
  | rawMove (dest source : Nat) (offset sourceOffset count : UInt64)
  deriving DecidableEq, Repr

/-- What a step answers. -/
inductive Answer
  /-- The step is done and has nothing to tell. -/
  | done
  /-- There is no block. -/
  | nothing
  /-- A block as its owner sees it: its length and its bytes. -/
  | block (length : UInt64) (bytes : Bytes)
  /-- A block as its owner sees it, and the length that its header tells. -/
  | details (length : UInt64) (bytes : Bytes) (header : UInt64)
  /-- A block that bytes have been copied to. -/
  | destination (length : UInt64) (bytes : Bytes)
  /-- Some bytes. -/
  | bytes (bs : Bytes)
  /-- A number of elements. -/
  | count (n : UInt64)
  /-- The offset of an element in a view of the given size. -/
  | offset (n size : UInt64)
  /-- The operation failed. -/
  | fault (f : Fault)
  /-- The step was not carried out. -/
  | refused (r : Refusal)
  deriving DecidableEq, Repr

/-- The state of a script. -/
structure Session where
  /-- The heap. -/
  heap : Heap
  /-- What the numbers of the script stand for. -/
  slots : Table Nat Slot

namespace Session

/-- A session before its first step. -/
def start (capacity : Nat) : Session := ⟨.empty capacity, .empty⟩

/-- The block that a number stands for, if it is owned. -/
def owned? (s : Session) (id : Nat) : Option Block :=
  match s.slots.get? id with
  | some (.owned b) => some b
  | _ => none

/-- A block as its owner sees it. -/
def display (s : Session) (b : Block) : Answer := .block b.length (s.heap.span b).bytes

/-- Lets a number stand for a new block.  An owned block that it stood for is given back; a raw
pointer is forgotten and its block stays in use. -/
def install (s : Session) (id : Nat) (b : Block) (heap : Heap) : Session × Answer :=
  let heap' := match s.owned? id with
    | some old => heap.free old
    | none => heap
  let s' : Session := ⟨heap', s.slots.set id (.owned b)⟩
  (s', s'.display b)

/-- Installs a block that was asked for, if it was granted. -/
def installResult (s : Session) (id : Nat) : Except Fault (Block × Heap) → Session × Answer
  | .ok (b, heap) => s.install id b heap
  | .error f => (s, .fault f)

/-- Goes on with the block that a number stands for. -/
def withOwned (s : Session) (id : Nat) (act : Block → Session × Answer) : Session × Answer :=
  match s.owned? id with
  | some b => act b
  | none => (s, .refused .noBlock)

/-- Goes on with a changed heap, and shows a block of it. -/
def change (s : Session) (b : Block) (heap : Heap) : Session × Answer :=
  let s' := { s with heap }
  (s', s'.display b)

/-- Goes on with a changed heap, unless the change failed. -/
def changeResult (s : Session) (b : Block) : Except Fault Heap → Session × Answer
  | .ok heap => s.change b heap
  | .error f => (s, .fault f)

/-- Only answers. -/
def answer {α : Type} (s : Session) (tell : α → Answer) : Except Fault α → Session × Answer
  | .ok a => (s, tell a)
  | .error f => (s, .fault f)

/-- Changes the length of an owned block. -/
def reallocate (s : Session) (id : Nat) (b : Block) (length : UInt64) : Session × Answer :=
  match s.heap.reallocate b length with
  | (.ok b', heap) =>
    let s' : Session := ⟨heap, s.slots.set id (.owned b')⟩
    (s', s'.display b')
  | (.error f, heap) => (⟨heap, s.slots.erase id⟩, .fault f)

/-- Whether a place of `count` bytes lies inside a block. -/
def inside (b : Block) (offset count : Nat) : Bool := offset + count ≤ b.length.toNat

/-- Copies raw bytes by the given means, if the places of the copy allow it. -/
def rawTransfer (s : Session) (disjoint : Bool)
    (transfer : Heap → Location → Location → UInt64 → Heap)
    (dest source : Nat) (offset sourceOffset count : UInt64) : Session × Answer :=
  match (s.owned? source).filter (inside · sourceOffset.toNat count.toNat) with
  | none => (s, .refused .sourceRange)
  | some src =>
    let distance := (offset.toNat - sourceOffset.toNat) + (sourceOffset.toNat - offset.toNat)
    if disjoint && dest == source && count.toNat > distance then (s, .refused .overlap)
    else s.withOwned dest fun b =>
      if inside b offset.toNat count.toNat then
        let heap := transfer s.heap ⟨b.handle, offset⟩ ⟨src.handle, sourceOffset⟩ count
        ({ s with heap }, .destination b.length (heap.span b).bytes)
      else (s, .refused .destinationRange)

/-- Carries out one step. -/
def step (s : Session) : Step → Session × Answer
  | .inspect => (s, .done)
  | .reclaimNull => (s, .nothing)
  | .allocate id count elemSize => s.installResult id (s.heap.allocate count elemSize)
  | .zeroed id length => s.installResult id (s.heap.zeroed length)
  | .ofBytes id bs => s.installResult id (s.heap.ofBytes bs)
  | .ofRaw id =>
    match s.slots.get? id with
    | some (.raw x) =>
      let b := s.heap.ofRaw x
      let s' : Session := { s with slots := s.slots.set id (.owned b) }
      (s', s'.display b)
    | _ => (s, .refused .noRawBlock)
  | .reallocate id length => s.withOwned id fun b => s.reallocate id b length
  | .free id => s.withOwned id fun b => (⟨s.heap.free b, s.slots.erase id⟩, .done)
  | .intoRaw id =>
    s.withOwned id fun b => ({ s with slots := s.slots.set id (.raw b.handle) }, .done)
  | .read id =>
    s.withOwned id fun b =>
      (s, .details b.length (s.heap.span b).bytes (s.heap.cell b.handle).length)
  | .peek id start stop =>
    s.withOwned id fun b =>
      if start ≤ stop && inside b start.toNat (stop - start).toNat then
        (s, .bytes (s.heap.read ⟨b.handle, start⟩ (stop - start)))
      else (s, .refused .range)
  | .poke id offset bs =>
    s.withOwned id fun b =>
      if inside b offset.toNat bs.length then
        s.change b (s.heap.write ⟨b.handle, offset⟩ bs)
      else (s, .refused .range)
  | .copyFrom id offset bs => s.withOwned id fun b => s.changeResult b (s.heap.copyFrom b offset bs)
  | .moveWithin id start stop dest =>
    s.withOwned id fun b => s.changeResult b (s.heap.moveWithin b start stop dest)
  | .element id index elemSize =>
    s.withOwned id fun b => s.answer .bytes ((s.heap.span b).element index elemSize)
  | .elementCount id elemSize =>
    s.withOwned id fun b => s.answer .count ((s.heap.span b).elementCount elemSize)
  | .writeElement id index elemSize bs =>
    s.withOwned id fun b => s.changeResult b (s.heap.writeElement b index elemSize bs)
  | .viewOffset id index elemSize =>
    s.withOwned id fun b => s.answer (.offset · b.length) ((b.view 0).offset index elemSize)
  | .viewCount id elemSize =>
    s.withOwned id fun b => s.answer .count ((b.view 0).elementCount elemSize)
  | .rawCopy dest source offset sourceOffset count =>
    s.rawTransfer true Heap.copyBytes dest source offset sourceOffset count
  | .rawMove dest source offset sourceOffset count =>
    s.rawTransfer false Heap.moveBytes dest source offset sourceOffset count

/-- Carries out a script: the last state, and after each step its answer and the counters. -/
def run (s : Session) : List Step → Session × List (Answer × Counters)
  | [] => (s, [])
  | p :: rest =>
    let (s', a) := s.step p
    let (last, answers) := s'.run rest
    (last, (a, s'.heap.counters) :: answers)

end Session

end RuntimeSupport.Memory

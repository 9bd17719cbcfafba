import Mathlib.Tactic.Set
import RuntimeSupport.Proofs.Memory.Independence
import RuntimeSupport.Proofs.Program.Run

/-!
# Memory calls do what owners of blocks do

A compiled program holds bare pointers.  An owner could do the same work: it takes back the blocks
that a call is about, carries out its own operation and gives the blocks up again.  That script is
`Step.counterpart`, and `Program.Matches` is the relation between the two: the same heap, and under
each number of the owner what the variable of the program points at.

The calls that hand out, change and give back blocks are looked at here, one by one
(`Step.Agrees`).  Copies and whole runs follow in `RuntimeSupport.Proofs.Program.Refinement`.
-/

namespace RuntimeSupport

namespace Memory

/-! ## What scripts answer -/

/-- The fault that an answer tells. -/
def Answer.fault? : Answer → Option Fault
  | .fault f => some f
  | _ => none

namespace Session

/-- The first fault that a script meets. -/
def fault? (s : Session) (steps : List Step) : Option Fault :=
  (s.run steps).2.findSome? fun r => r.1.fault?

/-- The length and the bytes that are seen by whoever takes back the pointer under a number. -/
def shown? (s : Session) (id : Nat) : Option (UInt64 × Bytes) :=
  match (s.step (.ofRaw id)).2 with
  | .block length bs => some (length, bs)
  | _ => none

lemma run_cons (s : Session) (p : Step) (rest : List Step) :
    (s.run (p :: rest)).1 = ((s.step p).1.run rest).1 := rfl

lemma run_append (s : Session) (steps rest : List Step) :
    (s.run (steps ++ rest)).1 = ((s.run steps).1.run rest).1 := by
  induction steps generalizing s with
  | nil => rfl
  | cons p steps ih => exact ih (s.step p).1

@[simp] lemma fault?_nil (s : Session) : s.fault? [] = none := rfl

lemma fault?_cons (s : Session) (p : Step) (rest : List Step) :
    s.fault? (p :: rest) = (s.step p).2.fault?.or ((s.step p).1.fault? rest) := by
  have hrun : (s.run (p :: rest)).2 =
      ((s.step p).2, (s.step p).1.heap.counters) :: ((s.step p).1.run rest).2 := rfl
  rw [fault?, hrun, List.findSome?_cons]
  cases (s.step p).2.fault? <;> rfl

/-- Blocks change hands without a fault. -/
lemma fault?_step_ofRaw (s : Session) (id : Nat) : (s.step (.ofRaw id)).2.fault? = none := by
  rw [step]
  split <;> rfl

lemma fault?_step_intoRaw (s : Session) (id : Nat) : (s.step (.intoRaw id)).2.fault? = none := by
  rw [step, withOwned]
  split <;> rfl

end Session

end Memory

/-- The raw copy that is made by the given means. -/
def Action.Transfer.ownerStep (t : Action.Transfer) (dest source : Program.Place)
    (count : UInt64) : Memory.Step :=
  match t with
  | .copy => .rawCopy dest.id source.id dest.offset source.offset count
  | .move => .rawMove dest.id source.id dest.offset source.offset count

namespace Program

open Memory

/-! ## The script of an owner -/

/-- What an owner does in place of a call.  A null pointer is no block to take back; what a call
does with one is its own operation, or nothing. -/
def Step.counterpart (p : Program) : Step → List Memory.Step
  | .allocate id size count => [.allocate id count size, .intoRaw id]
  | .reallocate id length =>
    match p.pointee? id with
    | none => [.zeroed id length, .intoRaw id]
    | some _ => [.ofRaw id, .reallocate id length, .intoRaw id]
  | .free id =>
    match p.pointee? id with
    | none => []
    | some _ => [.ofRaw id, .free id]
  | .poke id offset bs => [.ofRaw id, .poke id offset bs, .intoRaw id]
  | .transfer t (some dest) (some source) count =>
    match p.pointee? dest.id, p.pointee? source.id with
    | some _, some _ =>
      if count = 0 then []
      else if dest.id = source.id then
        [.ofRaw dest.id, t.ownerStep dest source count, .intoRaw dest.id]
      else
        [.ofRaw dest.id, .ofRaw source.id, t.ownerStep dest source count, .intoRaw source.id,
          .intoRaw dest.id]
    | _, _ => []
  | _ => []

/-- What an owner does in place of a run. -/
def ownerScript (p : Program) : List Step → List Memory.Step
  | [] => []
  | c :: rest =>
    c.counterpart p ++
      match c.perform p with
      | .ok _ q => q.ownerScript rest
      | .error _ _ => []

/-- An owner has the same heap as a program.  Under each number it keeps what the variable points
at: the block itself if it has taken that back, and a raw pointer otherwise. -/
structure Matches (p : Program) (taken : List Nat) (s : Session) : Prop where
  sound : s.Sound
  heap : s.heap = p.heap
  slots : ∀ id, s.slots.get? id =
    (p.pointee? id).map fun x => if id ∈ taken then .owned (p.heap.ofRaw x) else .raw x

variable {p q : Program} {s t : Session} {taken : List Nat} {id : Nat} {x : Handle} {b : Block}

lemma matches_start (platform : Platform) (environment : Environment) (args : List Bytes)
    (device : Device) :
    (start platform environment args device).Matches [] (.start platform.capacity) where
  sound := Session.sound_start platform.capacity
  heap := rfl
  slots _ := rfl

/-! ## Blocks change hands -/

namespace Matches

lemma slot_of_some (hm : p.Matches taken s) (hx : p.pointee? id = some x) :
    s.slots.get? id = some (if id ∈ taken then .owned (p.heap.ofRaw x) else .raw x) := by
  rw [hm.slots, hx, Option.map_some]

lemma slot_of_none (hm : p.Matches taken s) (hx : p.pointee? id = none) :
    s.slots.get? id = none := by
  rw [hm.slots, hx, Option.map_none]

lemma owned?_of_mem (hm : p.Matches taken s) (hid : id ∈ taken) (hx : p.pointee? id = some x) :
    s.owned? id = some (p.heap.ofRaw x) := by
  have hslot := hm.slot_of_some hx
  rw [if_pos hid] at hslot
  exact Session.owned?_eq_some.2 hslot

lemma owned?_of_none (hm : p.Matches taken s) (hx : p.pointee? id = none) : s.owned? id = none := by
  rw [Session.owned?, hm.slot_of_none hx]

lemma owned?_of_not_mem (hm : p.Matches taken s) (hid : id ∉ taken) : s.owned? id = none := by
  cases hx : p.pointee? id with
  | none => exact hm.owned?_of_none hx
  | some x => rw [Session.owned?, hm.slot_of_some hx, if_neg hid]

/-- Two variables never point at the same block. -/
lemma eq_of_pointee? {i j : Nat} (hm : p.Matches [] s) (hi : p.pointee? i = some x)
    (hj : p.pointee? j = some x) : i = j := by
  have hslot : ∀ k, p.pointee? k = some x → s.slots.get? k = some (.raw x) := by
    intro k hk
    rw [hm.slot_of_some hk, if_neg List.not_mem_nil]
  exact hm.sound.apart (hslot i hi) (hslot j hj) rfl

/-- A block is taken back. -/
lemma takeBack (hm : p.Matches taken s) (hid : id ∉ taken) :
    p.Matches (id :: taken) (s.step (.ofRaw id)).1 := by
  cases hx : p.pointee? id with
  | none =>
    have hstep : (s.step (.ofRaw id)).1 = s := by rw [Session.step, hm.slot_of_none hx]
    rw [hstep]
    refine ⟨hm.sound, hm.heap, fun j => ?_⟩
    rw [hm.slots]
    by_cases hj : j = id
    · rw [hj, hx, Option.map_none, Option.map_none]
    · simp only [List.mem_cons, hj, false_or]
  | some x =>
    have hslot := hm.slot_of_some hx
    rw [if_neg hid] at hslot
    have hsound := hm.sound.step (.ofRaw id)
    rw [Session.step_ofRaw hslot, hm.heap] at hsound ⊢
    refine ⟨hsound, rfl, fun j => ?_⟩
    rw [Table.get?_set]
    by_cases hj : j = id
    · rw [if_pos hj, hj, hx, Option.map_some, if_pos List.mem_cons_self]
    · rw [if_neg hj, hm.slots]
      simp only [List.mem_cons, hj, false_or]

/-- A block is given up. -/
lemma giveUp (hm : p.Matches (id :: taken) s) (hid : id ∉ taken) :
    p.Matches taken (s.step (.intoRaw id)).1 := by
  cases hx : p.pointee? id with
  | none =>
    have hstep : (s.step (.intoRaw id)).1 = s := by
      rw [Session.step, Session.withOwned, hm.owned?_of_none hx]
    rw [hstep]
    refine ⟨hm.sound, hm.heap, fun j => ?_⟩
    rw [hm.slots]
    by_cases hj : j = id
    · rw [hj, hx, Option.map_none, Option.map_none]
    · simp only [List.mem_cons, hj, false_or]
  | some x =>
    have hsound := hm.sound.step (.intoRaw id)
    rw [Session.step_intoRaw (hm.owned?_of_mem List.mem_cons_self hx)] at hsound ⊢
    refine ⟨hsound, hm.heap, fun j => ?_⟩
    rw [Table.get?_set]
    by_cases hj : j = id
    · rw [if_pos hj, hj, hx, Option.map_some, if_neg hid]
      rfl
    · rw [if_neg hj, hm.slots]
      simp only [List.mem_cons, hj, false_or]

/-- What an owner would see of a block is what the program sees. -/
lemma shown?_eq (hm : p.Matches [] s) (id : Nat) :
    s.shown? id = (p.pointee? id).map fun x =>
      ((p.heap.ofRaw x).length, (p.heap.span (p.heap.ofRaw x)).bytes) := by
  cases hx : p.pointee? id with
  | none =>
    rw [Session.shown?, Session.step, hm.slot_of_none hx]
    rfl
  | some x =>
    have hslot := hm.slot_of_some hx
    rw [if_neg List.not_mem_nil] at hslot
    rw [Session.shown?, Session.step_ofRaw hslot, hm.heap]
    rfl

/-! ## Blocks change -/

/-- The owner has got a block, and the variable points at it. -/
lemma set (hm : p.Matches taken s) (htaken : ∀ j ∈ taken, j = id) (hsound : t.Sound)
    (hslots : t.slots = s.slots.set id (.owned b)) (hheap : q.heap = t.heap)
    (hpointers : q.pointers = p.pointers.set id b.handle) : q.Matches [id] t := by
  have hself : t.slots.get? id = some (.owned b) := by
    rw [hslots]
    exact s.slots.get?_set_self id (.owned b)
  have hholds : t.heap.Holds b := hsound.owned (Session.owned?_eq_some.2 hself)
  refine ⟨hsound, hheap.symm, fun j => ?_⟩
  rw [pointee?, hpointers, hheap, Table.get?_set]
  by_cases hj : j = id
  · rw [if_pos hj, hj, hself, Option.map_some, if_pos List.mem_cons_self,
      Heap.ofRaw_handle hholds]
  · have hother : j ∉ taken := fun h => hj (htaken j h)
    rw [if_neg hj, hslots, Table.get?_set, if_neg hj, hm.slots]
    simp only [List.mem_cons, List.not_mem_nil, hj, hother, or_false]
    rfl

/-- The bytes of blocks have changed, and nothing else. -/
lemma rewrite (hm : p.Matches taken s) (hsound : t.Sound) (hslots : t.slots = s.slots)
    (hheap : q.heap = t.heap) (hpointers : q.pointers = p.pointers) : q.Matches taken t := by
  refine ⟨hsound, hheap.symm, fun j => ?_⟩
  have hsame : q.pointee? j = p.pointee? j := by rw [pointee?, hpointers, pointee?]
  have hslot : t.slots.get? j = s.slots.get? j := by rw [hslots]
  rw [hsame]
  cases hx : p.pointee? j with
  | none => rw [hslot, hm.slot_of_none hx, Option.map_none]
  | some x =>
    rw [hm.slot_of_some hx] at hslot
    rw [hslot, Option.map_some]
    by_cases hj : j ∈ taken
    · -- the owner knows the length of its block, and the heap agrees with it afterwards
      rw [if_pos hj] at hslot
      have hholds : t.heap.Holds (p.heap.ofRaw x) :=
        hsound.owned (Session.owned?_eq_some.2 hslot)
      have hblock : q.heap.ofRaw x = p.heap.ofRaw x := by
        rw [hheap]
        exact Heap.ofRaw_handle hholds
      rw [hblock]
    · rw [if_neg hj, if_neg hj]

/-- The block under a number has been given back, and the variable is null. -/
lemma erase (hm : p.Matches [id] s) (hsound : t.Sound) (hslots : t.slots = s.slots.erase id)
    (hheap : q.heap = t.heap) (hpointers : q.pointers = p.pointers.erase id) :
    q.Matches [] t := by
  refine ⟨hsound, hheap.symm, fun j => ?_⟩
  rw [pointee?, hpointers, hslots, Table.get?_erase, Table.get?_erase]
  by_cases hj : j = id
  · rw [if_pos hj, if_pos hj, Option.map_none]
  · rw [if_neg hj, if_neg hj, hm.slots]
    simp only [List.mem_cons, List.not_mem_nil, hj, or_false]
    rfl

end Matches

/-! ## Calls -/

/-- The calls that work on memory, and the stores of the program itself. -/
inductive Step.OfMemory : Step → Prop
  | allocate (id : Nat) (size count : UInt64) : OfMemory (.allocate id size count)
  | reallocate (id : Nat) (length : UInt64) : OfMemory (.reallocate id length)
  | free (id : Nat) : OfMemory (.free id)
  | poke (id : Nat) (offset : UInt64) (bs : Bytes) : OfMemory (.poke id offset bs)
  | transfer (t : Action.Transfer) (dest source : Option Place) (count : UInt64) :
      OfMemory (.transfer t dest source count)

/-- A place is in a live block, with as many bytes behind it as are asked for. -/
def Place.Valid (p : Program) (count : Nat) (place : Place) : Prop :=
  ∃ x, p.pointee? place.id = some x ∧
    place.offset.toNat + count ≤ (p.heap.ofRaw x).length.toNat

/-- No byte from the one place on is a byte from the other place on. -/
def Place.Disjoint (count : Nat) (d e : Place) : Prop :=
  d.id = e.id → ∀ i < count, ∀ j < count, d.offset.toNat + i ≠ e.offset.toNat + j

/-- A call keeps to its contract.  Pointers are null or live by nature, so only copies and stores
can break it. -/
def Step.Proper (p : Program) : Step → Prop
  | .poke id offset bs => Place.Valid p bs.length ⟨id, offset⟩
  | .transfer t dest source count =>
    (∀ d ∈ dest, d.Valid p count.toNat) ∧ (∀ e ∈ source, e.Valid p count.toNat) ∧
      (t = .copy → ∀ d ∈ dest, ∀ e ∈ source, Place.Disjoint count.toNat d e)
  | _ => True

/-- The pointer that a copy cannot do without. -/
def Step.nullFault? : Step → Option Fault
  | .transfer t none _ count =>
    if count = 0 then none else some (.nullPointer (t.name ++ " destination"))
  | .transfer t (some _) none count =>
    if count = 0 then none else some (.nullPointer (t.name ++ " source"))
  | _ => none

/-- What a call fails with: a null pointer, or what the owner's operation fails with. -/
def Step.failure? (c : Step) (p : Program) (s : Session) : Option Fault :=
  c.nullFault?.or (s.fault? (c.counterpart p))

/-- The answer of a call shows what the owner would see afterwards of the block that the returned
pointer leads to. -/
def Step.Answers (s : Session) : Step → Answer → Prop
  | .allocate id _ _, a | .reallocate id _, a | .poke id _ _, a =>
    ∃ length bs, s.shown? id = some (length, bs) ∧ a = .block length bs
  | .free id, a => s.shown? id = none ∧ a = .unit
  | .transfer _ dest _ _, a => a = .destination (dest.bind fun d => s.shown? d.id)
  | _, _ => True

/-- A call succeeds as its owner does, or ends the process if the owner fails. -/
def Step.Agrees (c : Step) (p : Program) (s : Session) : Prop :=
  match c.failure? p s with
  | none => ∃ a q, c.perform p = .ok a q ∧
      q.Matches [] (s.run (c.counterpart p)).1 ∧ c.Answers (s.run (c.counterpart p)).1 a
  | some f => ∃ q, p.Silent q ∧ c.perform p = Action.abortWith f q

section

variable {c : Step}

lemma Step.Agrees.of_ok {a : Answer} (hf : c.failure? p s = none) (hc : c.perform p = .ok a q)
    (hq : q.Matches [] (s.run (c.counterpart p)).1)
    (ha : c.Answers (s.run (c.counterpart p)).1 a) : c.Agrees p s := by
  rw [Agrees, hf]
  exact ⟨a, q, hc, hq, ha⟩

lemma Step.Agrees.of_fault {f : Fault} (hf : c.failure? p s = some f) (hq : p.Silent q)
    (hc : c.perform p = Action.abortWith f q) : c.Agrees p s := by
  rw [Agrees, hf]
  exact ⟨q, hq, hc⟩

/-- Last words are never followed by an answer. -/
lemma abortWith_ne_ok {α : Type} {a : α} (f : Fault) :
    (Action.abortWith f p : EStateM.Result Ending Program α) ≠ .ok a q := by
  intro h
  obtain ⟨r, habort, -⟩ := Action.abort_eq (α := α) f.words p
  rw [Action.abortWith, ← Fault.words, habort] at h
  cases h

/-- Where a call and its owner agree and the call comes back, they still match. -/
lemma Step.Agrees.matches_of_ok {a : Answer} (h : c.Agrees p s) (hc : c.perform p = .ok a q) :
    q.Matches [] (s.run (c.counterpart p)).1 := by
  rw [Agrees] at h
  split at h
  · obtain ⟨a', q', hc', hm, -⟩ := h
    rw [hc] at hc'
    cases hc'
    exact hm
  · obtain ⟨q', -, hc'⟩ := h
    exact absurd (hc'.symm.trans hc) (abortWith_ne_ok _)

end

/-! ### Blocks that are asked for -/

lemma handOut_point_ok (id : Nat) (b : Block) (heap : Heap) (p : Program) :
    ∃ errors, (Action.handOut (.ok (b, heap)) >>= point id) p =
      .ok (display { p with heap } b.handle)
        { p with heap, pointers := p.pointers.set id b.handle, errors } := by
  obtain ⟨errors, hchange⟩ := Action.changeHeap_apply heap (.allocated b.length) p
  refine ⟨errors, ?_⟩
  have hgiven : Action.handOut (.ok (b, heap)) p = .ok b.handle { p with heap, errors } := by
    rw [Action.handOut, Action.bind_of_ok hchange]
    rfl
  rw [Action.bind_of_ok hgiven]
  rfl

/-- A call that hands out a block, and the operation by which the owner gets one. -/
lemma agrees_handOut {c : Step} {o : Memory.Step} {r : Except Fault (Block × Heap)}
    (hm : p.Matches [] s) (hnull : c.nullFault? = none)
    (hcounterpart : c.counterpart p = [o, .intoRaw id])
    (hop : s.step o = s.installResult id r)
    (hperform : c.perform p = (Action.handOut r >>= point id) p)
    (hanswers : ∀ t a, c.Answers t a ↔
      ∃ length bs, t.shown? id = some (length, bs) ∧ a = .block length bs) : c.Agrees p s := by
  have hfailure : c.failure? p s = (s.step o).2.fault? := by
    rw [Step.failure?, hnull, hcounterpart, Option.none_or, Session.fault?_cons,
      Session.fault?_cons, Session.fault?_step_intoRaw, Session.fault?_nil, Option.none_or,
      Option.or_none]
  rcases r with f | ⟨b, heap⟩
  · refine .of_fault (f := f) ?_ (.refl p) ?_
    · rw [hfailure, hop]
      rfl
    · rw [hperform]
      rfl
  · have hinstalled : (s.step o).1 = ⟨heap, s.slots.set id (.owned b)⟩ := by
      rw [hop, Session.installResult, Session.install_eq, hm.owned?_of_not_mem List.not_mem_nil]
      rfl
    obtain ⟨errors, hgiven⟩ := handOut_point_ok id b heap p
    have hsound := hm.sound.step o
    rw [hinstalled] at hsound
    have hset : Matches { p with heap, pointers := p.pointers.set id b.handle, errors } [id]
        ⟨heap, s.slots.set id (.owned b)⟩ :=
      hm.set (fun _ h => absurd h List.not_mem_nil) hsound rfl rfl rfl
    have hafter : Matches { p with heap, pointers := p.pointers.set id b.handle, errors } []
        (s.run (c.counterpart p)).1 := by
      rw [hcounterpart, Session.run_cons, Session.run_cons, hinstalled]
      exact hset.giveUp List.not_mem_nil
    refine .of_ok ?_ (hperform.trans hgiven) hafter ?_
    · rw [hfailure, hop]
      rfl
    · rw [hanswers]
      refine ⟨_, _, ?_, rfl⟩
      rw [hafter.shown?_eq, pointee?, Table.get?_set_self]
      rfl

lemma agrees_allocate (hm : p.Matches [] s) (size count : UInt64) :
    (Step.allocate id size count).Agrees p s := by
  refine agrees_handOut (r := s.heap.allocate count size) hm rfl rfl rfl ?_ fun _ _ => Iff.rfl
  rw [hm.heap]
  rfl

lemma agrees_reallocate_null (hm : p.Matches [] s) (hx : p.pointee? id = none) (length : UInt64) :
    (Step.reallocate id length).Agrees p s := by
  refine agrees_handOut (o := .zeroed id length) (r := s.heap.zeroed length) hm rfl ?_ rfl ?_
    fun _ _ => Iff.rfl
  · rw [Step.counterpart, hx]
  · rw [hm.heap]
    show (Action.reallocate (p.pointee? id) length >>= point id) p = _
    rw [hx]
    rfl

/-! ### Blocks that are changed and given back -/

lemma perform_reallocate_ok (id : Nat) {length : UInt64} {heap : Heap} {b' : Block}
    (hx : p.pointee? id = some x)
    (hr : p.heap.reallocate (p.heap.ofRaw x) length = (.ok b', heap)) :
    ∃ errors, (Step.reallocate id length).perform p =
      .ok (display { p with heap } b'.handle)
        { p with heap, pointers := p.pointers.set id b'.handle, errors } := by
  obtain ⟨errors, hchange⟩ :=
    Action.changeHeap_apply heap (.reallocated (p.heap.ofRaw x).length length) p
  have hcall : Action.reallocate (some x) length p = .ok b'.handle { p with heap, errors } := by
    rw [Action.reallocate, Action.get_bind]
    simp only [hr]
    rw [Action.bind_of_ok hchange]
    rfl
  refine ⟨errors, ?_⟩
  show (Action.reallocate (p.pointee? id) length >>= point id) p = _
  rw [hx, Action.bind_of_ok hcall]
  rfl

lemma perform_reallocate_error (id : Nat) {length : UInt64} {heap : Heap} {f : Fault}
    (hx : p.pointee? id = some x)
    (hr : p.heap.reallocate (p.heap.ofRaw x) length = (.error f, heap)) :
    ∃ errors, (Step.reallocate id length).perform p =
      Action.abortWith f { p with heap, errors } := by
  obtain ⟨errors, hchange⟩ := Action.changeHeap_apply heap (.freed (p.heap.ofRaw x).length) p
  have hcall : Action.reallocate (some x) length p =
      Action.abortWith f { p with heap, errors } := by
    rw [Action.reallocate, Action.get_bind]
    simp only [hr]
    rw [Action.bind_of_ok hchange]
  refine ⟨errors, ?_⟩
  show (Action.reallocate (p.pointee? id) length >>= point id) p = _
  rw [hx, Action.bind_of_error hcall]
  rfl

lemma agrees_reallocate (hm : p.Matches [] s) (id : Nat) (length : UInt64) :
    (Step.reallocate id length).Agrees p s := by
  cases hx : p.pointee? id with
  | none => exact agrees_reallocate_null hm hx length
  | some x =>
    set b := p.heap.ofRaw x with hb
    set s₁ := (s.step (.ofRaw id)).1 with hs₁
    have hm₁ : p.Matches [id] s₁ := hm.takeBack List.not_mem_nil
    have howned : s₁.owned? id = some b := hm₁.owned?_of_mem List.mem_cons_self hx
    have hstep : s₁.step (.reallocate id length) = s₁.reallocate id b length := by
      rw [Session.step, Session.withOwned, howned]
    have hcounterpart : (Step.reallocate id length).counterpart p =
        [.ofRaw id, .reallocate id length, .intoRaw id] := by
      rw [Step.counterpart, hx]
    have hfailure : (Step.reallocate id length).failure? p s =
        (s₁.reallocate id b length).2.fault? := by
      rw [Step.failure?, hcounterpart, Session.fault?_cons, Session.fault?_step_ofRaw, ← hs₁,
        Session.fault?_cons, hstep, Session.fault?_cons, Session.fault?_step_intoRaw,
        Session.fault?_nil]
      simp [Step.nullFault?]
    have hsound := hm₁.sound.step (.reallocate id length)
    rw [hstep] at hsound
    rcases hr : p.heap.reallocate b length with ⟨f | b', heap⟩
    · have hfails : s₁.reallocate id b length = (⟨heap, s₁.slots.erase id⟩, .fault f) := by
        rw [Session.reallocate, hm₁.heap, hr]
      obtain ⟨errors, hcall⟩ := perform_reallocate_error id hx hr
      refine .of_fault ?_ ?_ hcall
      · rw [hfailure, hfails]
        rfl
      · exact ⟨rfl, rfl, rfl⟩
    · have hgets : s₁.reallocate id b length = (⟨heap, s₁.slots.set id (.owned b')⟩,
          Session.display ⟨heap, s₁.slots.set id (.owned b')⟩ b') := by
        rw [Session.reallocate, hm₁.heap, hr]
      rw [hgets] at hsound
      obtain ⟨errors, hcall⟩ := perform_reallocate_ok id hx hr
      set q : Program := { p with heap, pointers := p.pointers.set id b'.handle, errors } with hq
      have hset : q.Matches [id] ⟨heap, s₁.slots.set id (.owned b')⟩ :=
        hm₁.set (fun _ h => List.mem_singleton.1 h) hsound rfl rfl rfl
      have hafter : q.Matches [] (s.run ((Step.reallocate id length).counterpart p)).1 := by
        rw [hcounterpart, Session.run_cons, Session.run_cons, Session.run_cons, ← hs₁, hstep, hgets]
        exact hset.giveUp List.not_mem_nil
      refine .of_ok ?_ hcall hafter ?_
      · rw [hfailure, hgets]
        rfl
      · refine ⟨_, _, ?_, rfl⟩
        rw [hafter.shown?_eq, pointee?, hq, Table.get?_set_self]
        rfl

lemma perform_free_some (hx : p.pointee? id = some x) :
    ∃ errors, (Step.free id).perform p =
      .ok .unit { p with
        heap := p.heap.free (p.heap.ofRaw x), pointers := p.pointers.erase id, errors } := by
  obtain ⟨errors, hchange⟩ := Action.changeHeap_apply (p.heap.free (p.heap.ofRaw x))
    (.freed (p.heap.ofRaw x).length) p
  have hcall : Action.free (some x) p =
      .ok () { p with heap := p.heap.free (p.heap.ofRaw x), errors } := hchange
  refine ⟨errors, ?_⟩
  show (Action.free (p.pointee? id) >>= fun _ => _) p = _
  rw [hx, Action.bind_of_ok hcall]
  rfl

lemma perform_free_none (hx : p.pointee? id = none) :
    (Step.free id).perform p = .ok .unit { p with pointers := p.pointers.erase id } := by
  show (Action.free (p.pointee? id) >>= fun _ => _) p = _
  rw [hx]
  rfl

/-- Giving back what a null pointer points at is nothing to do. -/
lemma matches_erase_null (hm : p.Matches [] s) (hx : p.pointee? id = none) :
    Matches { p with pointers := p.pointers.erase id } [] s := by
  refine ⟨hm.sound, hm.heap, fun j => ?_⟩
  rw [hm.slots]
  show _ = ((p.pointers.erase id).get? j).map _
  rw [Table.get?_erase]
  by_cases hj : j = id
  · rw [if_pos hj, hj, hx]
  · rw [if_neg hj]
    rfl

lemma agrees_free (hm : p.Matches [] s) (id : Nat) : (Step.free id).Agrees p s := by
  cases hx : p.pointee? id with
  | none =>
    have hcounterpart : (Step.free id).counterpart p = [] := by rw [Step.counterpart, hx]
    have hafter : Matches { p with pointers := p.pointers.erase id } []
        (s.run ((Step.free id).counterpart p)).1 := by
      rw [hcounterpart]
      exact matches_erase_null hm hx
    refine .of_ok ?_ (perform_free_none hx) hafter ⟨?_, rfl⟩
    · rw [Step.failure?, hcounterpart]
      rfl
    · rw [hafter.shown?_eq, pointee?, Table.get?_erase, if_pos rfl]
      rfl
  | some x =>
    set s₁ := (s.step (.ofRaw id)).1 with hs₁
    have hm₁ : p.Matches [id] s₁ := hm.takeBack List.not_mem_nil
    have howned := hm₁.owned?_of_mem List.mem_cons_self hx
    have hstep : s₁.step (.free id) =
        (⟨p.heap.free (p.heap.ofRaw x), s₁.slots.erase id⟩, .done) := by
      rw [Session.step, Session.withOwned, howned, hm₁.heap]
    have hcounterpart : (Step.free id).counterpart p = [.ofRaw id, .free id] := by
      rw [Step.counterpart, hx]
    have hsound := hm₁.sound.step (.free id)
    rw [hstep] at hsound
    obtain ⟨errors, hcall⟩ := perform_free_some hx
    set q : Program := { p with
      heap := p.heap.free (p.heap.ofRaw x), pointers := p.pointers.erase id, errors } with hq
    have hafter : q.Matches [] (s.run ((Step.free id).counterpart p)).1 := by
      rw [hcounterpart, Session.run_cons, Session.run_cons, ← hs₁, hstep]
      exact hm₁.erase hsound rfl rfl rfl
    refine .of_ok ?_ hcall hafter ⟨?_, rfl⟩
    · rw [Step.failure?, hcounterpart, Session.fault?_cons, Session.fault?_step_ofRaw, ← hs₁,
        Session.fault?_cons, hstep]
      rfl
    · rw [hafter.shown?_eq, pointee?, hq, Table.get?_erase, if_pos rfl]
      rfl

/-! ### Blocks that are written to -/

lemma perform_poke (id : Nat) (offset : UInt64) (bs : Bytes) (hx : p.pointee? id = some x) :
    (Step.poke id offset bs).perform p =
      if offset.toNat + bs.length ≤ (p.heap.ofRaw x).length.toNat then
        .ok (display { p with heap := p.heap.write ⟨x, offset⟩ bs } x)
          { p with heap := p.heap.write ⟨x, offset⟩ bs }
      else .ok (.refused .range) p := by
  rw [Step.perform, withVariable_eq, hx]
  show (if offset.toNat + bs.length ≤ (p.heap.ofRaw x).length.toNat then store x offset bs
    else pure (.refused .range) : Action Answer) p = _
  split <;> rfl

/-- A store comes to the same for the owner, whether it is carried out or not. -/
lemma matches_poke {a : Answer} (hm : p.Matches [] s) {offset : UInt64} {bs : Bytes}
    (hc : (Step.poke id offset bs).perform p = .ok a q) :
    q.Matches [] (s.run ((Step.poke id offset bs).counterpart p)).1 := by
  set s₁ := (s.step (.ofRaw id)).1 with hs₁
  have hm₁ : p.Matches [id] s₁ := hm.takeBack List.not_mem_nil
  rw [Step.counterpart, Session.run_cons, Session.run_cons, Session.run_cons, ← hs₁]
  suffices hstored : q.Matches [id] (s₁.step (.poke id offset bs)).1 from
    hstored.giveUp List.not_mem_nil
  cases hx : p.pointee? id with
  | none =>
    have hstep : (s₁.step (.poke id offset bs)).1 = s₁ := by
      rw [Session.step, Session.withOwned, hm₁.owned?_of_none hx]
    rw [Step.perform, withVariable_eq, hx] at hc
    cases hc
    rw [hstep]
    exact hm₁
  | some x =>
    have howned := hm₁.owned?_of_mem List.mem_cons_self hx
    have hsound := hm₁.sound.step (.poke id offset bs)
    rw [perform_poke id offset bs hx] at hc
    rw [Session.step, Session.withOwned, howned] at hsound ⊢
    simp only [Session.inside, decide_eq_true_eq] at hsound ⊢
    by_cases hinside : offset.toNat + bs.length ≤ (p.heap.ofRaw x).length.toNat
    · rw [if_pos hinside] at hc hsound ⊢
      cases hc
      refine hm₁.rewrite hsound rfl ?_ rfl
      rw [Session.change, hm₁.heap]
      rfl
    · rw [if_neg hinside] at hc ⊢
      cases hc
      exact hm₁

lemma agrees_poke (hm : p.Matches [] s) {offset : UInt64} {bs : Bytes}
    (hproper : (Step.poke id offset bs).Proper p) : (Step.poke id offset bs).Agrees p s := by
  obtain ⟨x, hx, hinside⟩ := hproper
  have hcall := perform_poke id offset bs hx
  rw [if_pos hinside] at hcall
  have hafter := matches_poke hm hcall
  refine .of_ok ?_ hcall hafter ⟨_, _, ?_, rfl⟩
  · -- a store into the block itself cannot fail
    set s₁ := (s.step (.ofRaw id)).1 with hs₁
    have hm₁ : p.Matches [id] s₁ := hm.takeBack List.not_mem_nil
    have hstores : (s₁.step (.poke id offset bs)).2.fault? = none := by
      rw [Session.step, Session.withOwned, hm₁.owned?_of_mem List.mem_cons_self hx]
      simp only
      split <;> rfl
    rw [Step.failure?, Step.counterpart, Session.fault?_cons, Session.fault?_step_ofRaw, ← hs₁,
      Session.fault?_cons, hstores, Session.fault?_cons, Session.fault?_step_intoRaw]
    rfl
  · rw [hafter.shown?_eq]
    show (p.pointee? id).map _ = _
    rw [hx]
    rfl

end Program

end RuntimeSupport

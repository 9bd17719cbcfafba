import RuntimeSupport.Proofs.Memory.Resizing
import RuntimeSupport.Proofs.Program.Refinement

/-!
# Blocks whose length a compiled program changes

A compiled program changes the length of a block with the same means as its owner, so the same
remains of it.  A call that spares the block does so for the owner who makes it in place of the
program (`Step.Spares.counterpart`), and that owner's heap is the program's.

The main statement is `reallocated_remains`, for owners and for compiled programs.
-/

namespace RuntimeSupport.Program

open Memory

variable {p q : Program} {s : Session} {id : Nat} {c : Cell} {call : Step} {calls : List Step}

/-- The header and the bytes of what a variable points at. -/
def contents? (p : Program) (id : Nat) : Option Cell := (p.pointee? id).bind p.heap.cell?

/-- The length that a call gives to what a variable points at, if it does that. -/
def Step.newLength? (id : Nat) : Step → Option UInt64
  | .reallocate i length => if i = id then some length else none
  | _ => none

/-- A memory call that neither writes to what a variable points at nor gives it back nor puts
another block in its place.  It may change its length, and copy from it. -/
inductive Step.Spares (id : Nat) : Step → Prop
  | allocate {i : Nat} (h : i ≠ id) (size count : UInt64) : Spares id (.allocate i size count)
  | reallocate (i : Nat) (length : UInt64) : Spares id (.reallocate i length)
  | free {i : Nat} (h : i ≠ id) : Spares id (.free i)
  | poke {i : Nat} (h : i ≠ id) (offset : UInt64) (bs : Bytes) : Spares id (.poke i offset bs)
  | transfer (t : Action.Transfer) {dest : Option Place} (h : ∀ d ∈ dest, d.id ≠ id)
      (source : Option Place) (count : UInt64) : Spares id (.transfer t dest source count)

lemma Step.Spares.ofMemory (h : call.Spares id) : call.OfMemory := by
  cases h with
  | allocate _ size count => exact .allocate _ size count
  | reallocate i length => exact .reallocate i length
  | free _ => exact .free _
  | poke _ offset bs => exact .poke _ offset bs
  | transfer t _ source count => exact .transfer t _ source count

/-- A step of an owner that spares a block and leaves its length alone. -/
def Leaves (id : Nat) (step : Memory.Step) : Prop := step.Spares id ∧ step.newLength? id = none

lemma leaves_of_target_ne {step : Memory.Step} (h : step.target ≠ some id) : Leaves id step :=
  ⟨.other h, Memory.Step.newLength?_of_target_ne h⟩

/-- A pointer can be taken back and given up, whatever it points at. -/
lemma leaves_ofRaw (id i : Nat) : Leaves id (.ofRaw i) := by
  by_cases h : i = id
  · rw [h]
    exact ⟨.ofRaw, rfl⟩
  · exact leaves_of_target_ne fun hi => h (Option.some.inj hi)

lemma leaves_intoRaw (id i : Nat) : Leaves id (.intoRaw i) := by
  by_cases h : i = id
  · rw [h]
    exact ⟨.intoRaw, rfl⟩
  · exact leaves_of_target_ne fun hi => h (Option.some.inj hi)

/-- What an owner does in place of a call that spares a block spares it as well. -/
lemma Step.Spares.counterpart (h : call.Spares id) (hlength : call.newLength? id = none)
    (p : Program) : ∀ step ∈ call.counterpart p, Leaves id step := by
  have hother : ∀ {i : Nat} {step : Memory.Step}, i ≠ id → step.target = some i → Leaves id step :=
    fun hi htarget => leaves_of_target_ne fun h => hi (Option.some.inj (htarget.symm.trans h))
  cases h with
  | allocate hi size count =>
    simp only [Step.counterpart, List.forall_mem_cons]
    exact ⟨hother hi rfl, leaves_intoRaw id _, by simp⟩
  | reallocate i length =>
    have hi : i ≠ id := by
      rintro rfl
      simp [Step.newLength?] at hlength
    rw [Step.counterpart]
    split
    · simp only [List.forall_mem_cons]
      exact ⟨hother hi rfl, leaves_intoRaw id _, by simp⟩
    · simp only [List.forall_mem_cons]
      exact ⟨leaves_ofRaw id _, hother hi rfl, leaves_intoRaw id _, by simp⟩
  | free hi =>
    rw [Step.counterpart]
    split
    · simp
    · simp only [List.forall_mem_cons]
      exact ⟨leaves_ofRaw id _, hother hi rfl, by simp⟩
  | poke hi offset bs =>
    simp only [Step.counterpart, List.forall_mem_cons]
    exact ⟨leaves_ofRaw id _, hother hi rfl, leaves_intoRaw id _, by simp⟩
  | @transfer t dest h source count =>
    rcases dest with _ | d
    · simp [Step.counterpart]
    rcases source with _ | e
    · simp [Step.counterpart]
    have howner : Leaves id (t.ownerStep d e count) := by
      refine hother (h d rfl) ?_
      cases t <;> rfl
    rw [Step.counterpart]
    split
    · split
      · simp
      · split
        · simp only [List.forall_mem_cons]
          exact ⟨leaves_ofRaw id _, howner, leaves_intoRaw id _, by simp⟩
        · simp only [List.forall_mem_cons]
          exact ⟨leaves_ofRaw id _, leaves_ofRaw id _, howner, leaves_intoRaw id _,
            leaves_intoRaw id _, by simp⟩
    · simp

/-- An owner's script that leaves a block alone leaves it as it is. -/
lemma contents?_run_of_leaves {steps : List Memory.Step} (hs : s.Sound)
    (hc : s.contents? id = some c) (hsteps : ∀ step ∈ steps, Leaves id step) :
    (s.run steps).1.contents? id = some c := by
  have hnone : steps.filterMap (Memory.Step.newLength? id) = [] :=
    List.filterMap_eq_nil_iff.2 fun step hstep => (hsteps step hstep).2
  have hrun := hs.contents?_run hc (fun step hstep => (hsteps step hstep).1) ?_
  · rwa [hnone] at hrun
  · -- no step is to change the length, so none has to answer with a block
    intro r hr hlength
    exact absurd (hsteps r.1 (List.of_mem_zip hr).1).2 hlength

/-- An owner finds in the heap what the program finds there. -/
lemma Matches.contents?_eq (hm : p.Matches [] s) (id : Nat) : s.contents? id = p.contents? id := by
  rw [Session.contents?, contents?, hm.slots, hm.heap]
  cases p.pointee? id with
  | none => rfl
  | some x => rfl

/-- A reallocation that comes back has moved the block, and the variable with it. -/
lemma contents?_reallocate {a : Answer} {length : UInt64} (hc : p.contents? id = some c)
    (h : (Step.reallocate id length).perform p = .ok a q) :
    q.contents? id = some (c.resize length) := by
  obtain ⟨x, hx, hcell⟩ := Option.bind_eq_some_iff.1 hc
  by_cases hroom : (p.heap.erase x).Grants length
  · have hmove : p.heap.reallocate (p.heap.ofRaw x) length =
        (.ok ⟨⟨p.heap.fresh⟩, length⟩, p.heap.move (p.heap.ofRaw x) length) := by
      rw [Heap.reallocate]
      exact if_pos hroom
    obtain ⟨errors, hok⟩ := perform_reallocate_ok id hx hmove
    rw [hok] at h
    cases h
    rw [contents?, pointee?, Table.get?_set_self, Option.bind_some, Heap.cell?_move, if_pos rfl]
    exact congrArg (fun d => some (Cell.resize d length)) (Heap.cell_eq hcell)
  · have hfail : p.heap.reallocate (p.heap.ofRaw x) length =
        (.error (.allocationFailed length), p.heap.free (p.heap.ofRaw x)) := by
      rw [Heap.reallocate]
      exact if_neg hroom
    obtain ⟨errors, hend⟩ := perform_reallocate_error id hx hfail
    rw [hend] at h
    exact absurd h (abortWith_ne_ok _)

/-- A call that spares a block and comes back has at most changed its length. -/
lemma contents?_perform {a : Answer} (hm : p.Matches [] s) (hc : p.contents? id = some c)
    (hcall : call.Spares id) (h : call.perform p = .ok a q) :
    q.contents? id = some ((call.newLength? id).elim c c.resize) := by
  cases hlength : call.newLength? id with
  | none =>
    have hq := matches_perform hm hcall.ofMemory h
    rw [← hm.contents?_eq] at hc
    rw [← hq.contents?_eq]
    exact contents?_run_of_leaves hm.sound hc (hcall.counterpart hlength p)
  | some n =>
    obtain rfl : call = .reallocate id n := by
      cases call with
      | reallocate i length =>
        obtain ⟨rfl, rfl⟩ : i = id ∧ length = n := by simpa [Step.newLength?] using hlength
        rfl
      | _ => cases hlength
    exact contents?_reallocate hc h

theorem contents?_after? (hm : p.Matches [] s) (hc : p.contents? id = some c)
    (hcalls : ∀ call ∈ calls, call.Spares id) (h : p.after? calls = some q) :
    q.contents? id = some ((calls.filterMap (Step.newLength? id)).foldl Cell.resize c) := by
  induction calls generalizing p s c with
  | nil =>
    cases h
    exact hc
  | cons call calls ih =>
    rw [List.forall_mem_cons] at hcalls
    obtain ⟨a, r, hcall, hrest⟩ := after?_cons_eq_some.1 h
    have hr := matches_perform hm hcalls.1.ofMemory hcall
    have hlast := ih hr (contents?_perform hm hc hcalls.1 hcall) hcalls.2 hrest
    rw [foldl_filterMap_cons]
    exact hlast

lemma display_eq {x : Handle} (hp : p.heap.Sound) (hx : p.pointee? id = some x)
    (hc : p.contents? id = some c) : p.display x = .block c.length c.bytes := by
  rw [contents?, hx] at hc
  have hcell : p.heap.cell? x = some c := hc
  have hbytes := (hp.cells hcell).length_bytes
  rw [display, Heap.ofRaw, Heap.span, Heap.cell_eq hcell,
    List.take_of_length_le (Nat.le_of_eq hbytes)]

/-- Changing the length of a block never brings bytes back.  Whatever lengths a block is given in
turn, and whatever is done in between as long as it spares the block, all bytes are kept that have
fitted every length, and all the others are zero: so it is for an owner who is answered with a block
each time, and for a compiled program whose calls come back. -/
theorem reallocated_remains :
    (∀ (s : Session) (id : Nat) (c : Cell) (steps : List Memory.Step), s.Sound →
      s.contents? id = some c → (∀ step ∈ steps, step.Spares id) →
      (∀ r ∈ s.trace steps, Resized id r) →
      ∃ last, (s.run steps).1.contents? id = some last ∧
        c.Remains (steps.filterMap (Memory.Step.newLength? id)) last ∧
        ∀ b, (s.run steps).1.owned? id = some b →
          (s.run steps).1.display b = .block last.length last.bytes) ∧
    ∀ (p q : Program) (s : Session) (id : Nat) (c : Cell) (calls : List Step), p.Matches [] s →
      p.contents? id = some c → (∀ call ∈ calls, call.Spares id) → p.after? calls = some q →
      ∃ last x, q.contents? id = some last ∧
        c.Remains (calls.filterMap (Step.newLength? id)) last ∧
        q.pointee? id = some x ∧ q.display x = .block last.length last.bytes := by
  constructor
  · intro s id c steps hs hc hsteps hdone
    obtain ⟨t, -, hcell⟩ := Option.bind_eq_some_iff.1 hc
    have hlast := hs.contents?_run hc hsteps hdone
    refine ⟨_, hlast, (hs.heap.cells hcell).remains _, fun b hb => ?_⟩
    exact (hs.run steps).display_eq hb hlast
  · intro p q s id c calls hm hc hcalls h
    obtain ⟨x, -, hcell⟩ := Option.bind_eq_some_iff.1 hc
    have hlast := contents?_after? hm hc hcalls h
    have hq := matches_after? hm (fun call hcall => (hcalls call hcall).ofMemory) h
    obtain ⟨y, hy, -⟩ := Option.bind_eq_some_iff.1 hlast
    exact ⟨_, y, hlast, ((hm.heap ▸ hm.sound.heap).cells hcell).remains _, hy,
      display_eq (hq.heap ▸ hq.sound.heap) hy hlast⟩

/-- Five bytes are cut to two; when there is room for four again, the other two are zero. -/
theorem reallocated_remains_regrown :
    let s := ((Session.start standardCapacity).run [.ofBytes 0 [1, 2, 3, 4, 5]]).1
    let steps : List Memory.Step := [.reallocate 0 2, .intoRaw 0, .ofRaw 0, .reallocate 0 4]
    let p := start .standard .empty [] .working
    let stores : List Step := [.allocate 0 1 5, .poke 0 0 [1, 2, 3, 4, 5]]
    let calls : List Step := [.reallocate 0 2, .reallocate 0 4]
    (s.run steps).1.contents? 0 = some ⟨4, [1, 2, 0, 0]⟩ ∧
      ∃ q r, p.after? stores = some q ∧ q.after? calls = some r ∧
        r.contents? 0 = some ⟨4, [1, 2, 0, 0]⟩ := by
  intro s steps p stores calls
  obtain ⟨howner, hprogram⟩ := reallocated_remains
  have hregrown : ∀ last : Cell, Cell.Remains ⟨5, [1, 2, 3, 4, 5]⟩ [2, 4] last →
      last = ⟨4, [1, 2, 0, 0]⟩ := by
    rintro ⟨length, bytes⟩ ⟨hlength, -, hbytes, -⟩
    obtain rfl : length = 4 := hlength
    have hpadded : padded [1, 2, 3, 4, 5] 2 4 = [1, 2, 0, 0] := by decide +kernel
    exact congrArg (Cell.mk 4) (hbytes.trans hpadded)
  constructor
  · have hsteps : ∀ step ∈ steps, step.Spares 0 := by
      simp only [steps, List.forall_mem_cons]
      exact ⟨.reallocate 2, .intoRaw, .ofRaw, .reallocate 4, by simp⟩
    have htrace : s.trace steps = [(.reallocate 0 2, .block 2 [1, 2]), (.intoRaw 0, .done),
        (.ofRaw 0, .block 2 [1, 2]), (.reallocate 0 4, .block 4 [1, 2, 0, 0])] := by decide +kernel
    have hdone : ∀ r ∈ s.trace steps, Resized 0 r := by
      rw [htrace]
      simp only [List.forall_mem_cons]
      exact ⟨fun _ => ⟨_, _, rfl⟩, fun h => absurd rfl h, fun h => absurd rfl h,
        fun _ => ⟨_, _, rfl⟩, by simp⟩
    obtain ⟨last, hlast, hremains, -⟩ := howner s 0 ⟨5, [1, 2, 3, 4, 5]⟩ steps
      ((Session.sound_start _).run _) (by decide +kernel) hsteps hdone
    rw [hlast, hregrown last hremains]
  · have hstores : ∀ call ∈ stores, call.OfMemory := by
      simp only [stores, List.forall_mem_cons]
      exact ⟨.allocate 0 1 5, .poke 0 0 [1, 2, 3, 4, 5], by simp⟩
    have hcalls : ∀ call ∈ calls, call.Spares 0 := by
      simp only [calls, List.forall_mem_cons]
      exact ⟨.reallocate 0 2, .reallocate 0 4, by simp⟩
    have hm := matches_after? (matches_start .standard .empty [] .working) hstores rfl
    obtain ⟨last, x, hlast, hremains, -⟩ := hprogram _ _ _ 0 ⟨5, [1, 2, 3, 4, 5]⟩ calls hm
      (by decide +kernel) hcalls rfl
    exact ⟨_, _, rfl, rfl, hlast.trans (congrArg some (hregrown last hremains))⟩

end RuntimeSupport.Program

import RuntimeSupport.Proofs.Memory.Allocation
import RuntimeSupport.Proofs.Program.Memory

/-!
# Failed requests of compiled programs

A compiled program does not come back from a request that fails, but the memory in which it ends can
still be told: it is untouched, unless the request was to change the length of a block, which has
been given back then (`reallocate_eq_error`).  That no counter wraps there is known from the owner
who has the same memory (`exists_owner_after?`), as the owner can keep books.

The main statement is `failed_requests_exact`, for owners and for compiled programs.
-/

namespace RuntimeSupport.Program

open RuntimeSupport.Action Memory

variable {p q : Program} {id : Nat} {x : Handle} {e : Ending} {length : UInt64}

/-- A block that is asked for and not handed out leaves memory as it is. -/
lemma sameMemory_handOut {r : Except Fault (Block × Heap)}
    (h : (handOut r >>= point id) p = .error e q) : p.SameMemory q := by
  rcases r with f | ⟨b, heap⟩
  · exact sameMemory_abortWith (α := Answer) h
  · obtain ⟨errors, hok⟩ := handOut_point_ok id b heap p
    rw [hok] at h
    cases h

lemma sameMemory_allocate {size count : UInt64}
    (h : (Step.allocate id size count).perform p = .error e q) : p.SameMemory q :=
  sameMemory_handOut h

lemma sameMemory_reallocate_null (hx : p.pointee? id = none)
    (h : (Step.reallocate id length).perform p = .error e q) : p.SameMemory q := by
  have hnull : (Action.reallocate (p.pointee? id) length >>= point id) p = .error e q := h
  rw [hx] at hnull
  exact sameMemory_handOut hnull

/-- Where a change of length ends the process, the block has been given back. -/
lemma reallocate_eq_error (hx : p.pointee? id = some x)
    (h : (Step.reallocate id length).perform p = .error e q) :
    q.heap = p.heap.free (p.heap.ofRaw x) ∧ q.pointers = p.pointers := by
  rcases hr : p.heap.reallocate (p.heap.ofRaw x) length with ⟨f | b, heap⟩
  · obtain ⟨errors, hend⟩ := perform_reallocate_error id hx hr
    rw [hend] at h
    have hsame := sameMemory_abortWith h
    obtain ⟨-, rfl⟩ := Heap.reallocate_eq_error hr
    exact ⟨hsame.heap, hsame.pointers⟩
  · obtain ⟨errors, hok⟩ := perform_reallocate_ok id hx hr
    rw [hok] at h
    cases h

/-- To give back a block of a program wraps no counter, whatever steps have led there. -/
lemma released_after? {platform : Platform} {environment : Environment} {args : List Bytes}
    {device : Device} {steps : List Step}
    (h : (start platform environment args device).after? steps = some p)
    (hx : p.pointee? id = some x) :
    p.heap.Released (p.heap.ofRaw x) (p.heap.free (p.heap.ofRaw x)) := by
  obtain ⟨script, hm⟩ := exists_owner_after? h
  have hcapacity : platform.capacity ≤ 2 ^ 63 := platform.capacity_le
  have hbooks := ((Ledger.inOrder_start hcapacity).run script).1
  have hback : p.Matches [id] _ := hm.takeBack List.not_mem_nil
  have howned := hback.owned?_of_mem List.mem_cons_self hx
  have hreleased := (hbooks.step (.ofRaw id)).1.released howned
  rw [hback.heap] at hreleased
  exact hreleased

/-- Requests for memory fail for exact reasons and leave everything else intact.  A product that
does not fit a word is an overflow; one that does, but is too large for any object, cannot be handed
out, and the failure names it; all others are handed out as so many zeros if there is room.  A
request for a new block that fails changes nothing.  A change of length that fails gives back the
block that it has consumed, and does nothing else: there is one block less, with its bytes, it
counts as given back, and all other blocks are as they were.  So it is for owners, and for compiled
programs in the state in which they end. -/
theorem failed_requests_exact :
    (∀ (h : Heap) (count elemSize : UInt64), h.Supplying count elemSize) ∧
    (∀ (capacity : Nat) (steps : List Memory.Step), capacity ≤ 2 ^ 63 →
      let s := ((Session.start capacity).run steps).1
      (∀ step f, step.Requests → (s.step step).2 = .fault f → (s.step step).1 = s) ∧
      ∀ id length f, (s.step (.reallocate id length)).2 = .fault f →
        ∃ b, s.owned? id = some b ∧ f = .allocationFailed length ∧
          s.heap.Released b (s.step (.reallocate id length)).1.heap ∧
          (s.step (.reallocate id length)).1.slots = s.slots.erase id) ∧
    ∀ (platform : Platform) (environment : Environment) (args : List Bytes) (device : Device)
      (steps : List Step) (p : Program),
      (start platform environment args device).after? steps = some p →
      (∀ id size count e q, (Step.allocate id size count).perform p = .error e q →
        p.SameMemory q) ∧
      ∀ id length e q, (Step.reallocate id length).perform p = .error e q →
        (p.pointee? id = none → p.SameMemory q) ∧
        ∀ x, p.pointee? id = some x →
          p.heap.Released (p.heap.ofRaw x) q.heap ∧ q.pointers = p.pointers := by
  refine ⟨Heap.supplying, ?_, ?_⟩
  · intro capacity steps hcapacity s
    have hbooks := ((Ledger.inOrder_start hcapacity).run steps).1
    refine ⟨fun step f => Session.step_request_fault, fun id length f hfault => ?_⟩
    obtain ⟨b, howned, hf, hstep⟩ := Session.step_reallocate_fault hfault
    rw [hstep]
    exact ⟨b, howned, hf, hbooks.released howned, rfl⟩
  · intro platform environment args device steps p hsteps
    refine ⟨fun id size count e q => sameMemory_allocate, fun id length e q hend => ?_⟩
    refine ⟨fun hx => sameMemory_reallocate_null hx hend, fun x hx => ?_⟩
    obtain ⟨hheap, hpointers⟩ := reallocate_eq_error hx hend
    rw [hheap]
    exact ⟨released_after? hsteps hx, hpointers⟩

/-- A product of 2^64, and one that is the first too large for an object; an owner of two blocks
asks for too many bytes, and so does a compiled program, which has one. -/
theorem failed_requests_exact_largest :
    let h := Heap.empty standardCapacity
    let script : List Memory.Step := [.zeroed 0 4, .ofBytes 1 [1, 2, 3]]
    let s := ((Session.start standardCapacity).run script).1
    (h.allocate 0x4000_0000_0000_0000 4 = .error (.sizeOverflow 0x4000_0000_0000_0000 4)) ∧
      (∃ n : UInt64, n.toNat = 2 ^ 63 - 31 ∧
        h.allocate 0x7FFF_FFFF_FFFF_FFE1 1 = .error (.allocationFailed n)) ∧
      (s.step (.allocate 0 Word.largest 2)).1 = s ∧
      (∃ b, s.owned? 0 = some b ∧
        s.heap.Released b (s.step (.reallocate 0 Word.largest)).1.heap) ∧
      ∃ p e q x, (start .standard .empty [] .working).after? [.allocate 0 4 1] = some p ∧
        (Step.reallocate 0 Word.largest).perform p = .error e q ∧ p.pointee? 0 = some x ∧
          p.heap.Released (p.heap.ofRaw x) q.heap := by
  intro h script s
  obtain ⟨hsupplying, howner, hprogram⟩ := failed_requests_exact
  refine ⟨?_, ?_, ?_, ?_, ?_⟩
  · exact ((hsupplying h _ _).sizeOverflow_iff _ _).2 ⟨by decide, rfl, rfl⟩
  · exact (hsupplying h 0x7FFF_FFFF_FFFF_FFE1 1).tooLarge (by decide) (by decide)
  · exact (howner standardCapacity script (by decide)).1 _ _ (.allocate 0 Word.largest 2) rfl
  · obtain ⟨b, hb, -, hreleased, -⟩ :=
      (howner standardCapacity script (by decide)).2 0 Word.largest _ rfl
    exact ⟨b, hb, hreleased⟩
  · obtain ⟨-, hrealloc⟩ := hprogram .standard .empty [] .working [.allocate 0 4 1] _ rfl
    obtain ⟨-, hreleased⟩ := hrealloc 0 Word.largest _ _ rfl
    exact ⟨_, _, _, _, rfl, rfl, rfl, (hreleased _ rfl).1⟩

end RuntimeSupport.Program

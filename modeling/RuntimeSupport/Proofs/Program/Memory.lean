import RuntimeSupport.Proofs.Element.Access
import RuntimeSupport.Proofs.Program.Congruence
import RuntimeSupport.Proofs.Program.Refinement

/-!
# Memory under all steps of a program

Memory calls do what owners of blocks do.  A program also prints, logs, captures arguments and loads
its settings in between, but none of this touches its memory (`sameMemory_perform`); and to store a
byte at an element is to store it at a distance that has been checked (`perform_poke_of_storeAt`).
So the memory of every program that any steps have led to is that of a session
(`exists_owner_after?`), and whatever holds of sessions holds of it.
-/

namespace RuntimeSupport.Program

open RuntimeSupport.Action Memory

/-- Two states have the same memory: the same blocks and counters, and the same pointers to them. -/
structure SameMemory (p q : Program) : Prop where
  heap : q.heap = p.heap
  pointers : q.pointers = p.pointers

variable {p q : Program} {s : Session} {c : Step} {id : Nat} {x : Handle}

lemma SameMemory.refl (p : Program) : p.SameMemory p := ⟨rfl, rfl⟩

/-! ## Steps that leave memory alone -/

lemma inward_sameMemory (before : Program) : Inward before.SameMemory :=
  fun _ _ _ _ _ h => ⟨h.heap, h.pointers⟩

/-- Last words do not touch memory. -/
lemma sameMemory_abortWith {α : Type} {f : Fault} {e : Ending}
    (h : (abortWith f p : EStateM.Result Ending Program α) = .error e q) : p.SameMemory q := by
  have hwords := respects_abort (α := α) (inward_sameMemory p).outerCongruence f.words
  have hsame : p.SameMemory ((abortWith f : Action α).final p) :=
    final_of_respects hwords (SameMemory.refl p)
  rwa [final_of_error h] at hsame

/-- A step that does not change memory leaves it as it is, also if the process ends there. -/
lemma sameMemory_perform (h : ¬c.ChangesMemory) (p : Program) :
    p.SameMemory (c.perform.final p) := by
  refine final_of_respects ?_ (SameMemory.refl p)
  refine perform_respects_of (inward_sameMemory p).outerCongruence c (fun hc => absurd hc h) ?_
  rintro _ a _ q r ⟨rfl, hq⟩
  exact ⟨rfl, hq.heap, hq.pointers⟩

/-- An owner who has the memory of a program has it as long as it stays the same. -/
lemma Matches.of_sameMemory (hm : p.Matches [] s) (h : p.SameMemory q) : q.Matches [] s where
  sound := hm.sound
  heap := hm.heap.trans h.heap.symm
  slots i := by
    rw [hm.slots, h.heap, pointee?, pointee?, h.pointers]

/-! ## Stores at elements -/

lemma perform_storeAt (hx : p.pointee? id = some x) (i elemSize : UInt64) (byte : UInt8) :
    (Step.storeAt id i elemSize byte).perform p =
      match ((p.heap.ofRaw x).view somewhere).index i elemSize with
      | .ok a => store x (a - somewhere) [byte] p
      | .error f => abortWith f p := by
  rw [Step.perform, withVariable_eq, hx]
  show (do store x ((← orAbort _) - somewhere) [byte] : Action Answer) p = _
  cases ((p.heap.ofRaw x).view somewhere).index i elemSize <;> rfl

lemma perform_storeAt_eq_ok {i elemSize : UInt64} {byte : UInt8} {a : Answer}
    (hx : p.pointee? id = some x) (h : (Step.storeAt id i elemSize byte).perform p = .ok a q) :
    ∃ address, ((p.heap.ofRaw x).view somewhere).index i elemSize = .ok address ∧
      store x (address - somewhere) [byte] p = .ok a q := by
  rw [perform_storeAt hx] at h
  cases hindex : ((p.heap.ofRaw x).view somewhere).index i elemSize with
  | ok address =>
    rw [hindex] at h
    exact ⟨address, rfl, h⟩
  | error f =>
    rw [hindex] at h
    exact absurd h (abortWith_ne_ok f)

/-- A store at an element that is not there leaves memory as it is. -/
lemma sameMemory_storeAt {i elemSize : UInt64} {byte : UInt8} {e : Ending}
    (hx : p.pointee? id = some x) (h : (Step.storeAt id i elemSize byte).perform p = .error e q) :
    p.SameMemory q := by
  rw [perform_storeAt hx] at h
  cases hindex : ((p.heap.ofRaw x).view somewhere).index i elemSize with
  | ok address =>
    rw [hindex] at h
    cases h
  | error f =>
    rw [hindex] at h
    exact sameMemory_abortWith h

/-- What fits an element fits the block from where the element starts. -/
lemma inside_of_index {b : Block} {i elemSize address a : UInt64} {n : Nat}
    (h : (b.view address).index i elemSize = .ok a) (hn : n ≤ elemSize.toNat) :
    (a - address).toNat + n ≤ b.length.toNat := by
  obtain ⟨hfits, -, hdistance⟩ := View.index_eq_ok h
  have hdistance : (a - address).toNat = Element.position i elemSize := hdistance
  rw [hdistance]
  exact Nat.le_trans (Nat.add_le_add_left hn _) hfits.position_add_le

/-- A byte that is stored at an element might as well be stored at its distance. -/
lemma perform_poke_of_storeAt {i elemSize : UInt64} {byte : UInt8} {a : Answer}
    (hx : p.pointee? id = some x) (h : (Step.storeAt id i elemSize byte).perform p = .ok a q) :
    ∃ offset, (Step.poke id offset [byte]).perform p = .ok a q := by
  obtain ⟨address, hindex, hstore⟩ := perform_storeAt_eq_ok hx h
  obtain ⟨hfits, -⟩ := View.index_eq_ok hindex
  have hinside : (address - somewhere).toNat + [byte].length ≤ (p.heap.ofRaw x).length.toNat :=
    inside_of_index hindex hfits.1
  refine ⟨address - somewhere, ?_⟩
  rw [perform_poke id _ _ hx, if_pos hinside]
  exact hstore

/-! ## Every step is an owner's -/

lemma Step.ChangesMemory.cases (h : c.ChangesMemory) :
    c.OfMemory ∨ ∃ id i elemSize byte, c = .storeAt id i elemSize byte := by
  cases c with
  | allocate id size count => exact .inl (.allocate id size count)
  | reallocate id length => exact .inl (.reallocate id length)
  | free id => exact .inl (.free id)
  | poke id offset bs => exact .inl (.poke id offset bs)
  | transfer t dest source count => exact .inl (.transfer t dest source count)
  | storeAt id i elemSize byte => exact .inr ⟨id, i, elemSize, byte, rfl⟩
  | _ => cases h

/-- What a step that comes back has done to memory, an owner can do as well. -/
lemma exists_owner_perform {a : Answer} (hm : p.Matches [] s) (h : c.perform p = .ok a q) :
    ∃ script, q.Matches [] (s.run script).1 := by
  by_cases hc : c.ChangesMemory
  · rcases hc.cases with hmemory | ⟨id, i, elemSize, byte, rfl⟩
    · exact ⟨_, matches_perform hm hmemory h⟩
    · cases hx : p.pointee? id with
      | none =>
        rw [Step.perform, withVariable_eq, hx] at h
        cases h
        exact ⟨[], hm⟩
      | some x =>
        obtain ⟨offset, hpoke⟩ := perform_poke_of_storeAt hx h
        exact ⟨_, matches_perform hm (.poke id offset [byte]) hpoke⟩
  · have hsame := sameMemory_perform hc p
    rw [final_of_ok h] at hsame
    exact ⟨[], hm.of_sameMemory hsame⟩

/-- The memory of a program that any steps have led to is that of a session. -/
theorem exists_owner_after? {platform : Platform} {environment : Environment} {args : List Bytes}
    {device : Device} {steps : List Step}
    (h : (start platform environment args device).after? steps = some p) :
    ∃ script, p.Matches [] ((Session.start platform.capacity).run script).1 := by
  refine after?_preserves (P := fun p => ∃ script,
    p.Matches [] ((Session.start platform.capacity).run script).1) ?_ ⟨[], ?_⟩ h
  · rintro p c a q ⟨script, hm⟩ hc
    obtain ⟨more, hq⟩ := exists_owner_perform hm hc
    refine ⟨script ++ more, ?_⟩
    rw [Session.run_append]
    exact hq
  · exact matches_start platform environment args device

/-- The heap of such a program is sound, and what a variable points at is in use. -/
lemma Matches.holds (hm : p.Matches [] s) (hx : p.pointee? id = some x) :
    p.heap.Sound ∧ p.heap.Holds (p.heap.ofRaw x) := by
  have hslot := hm.slot_of_some hx
  rw [if_neg List.not_mem_nil] at hslot
  obtain ⟨d, hd, -⟩ := hm.sound.holds hslot
  have hcell : p.heap.cell? x = some d := hm.heap ▸ hd
  refine ⟨hm.heap ▸ hm.sound.heap, d, hcell, ?_⟩
  rw [Heap.ofRaw, Heap.cell_eq hcell]

end RuntimeSupport.Program

import RuntimeSupport.Proofs.Element.Overwriting
import RuntimeSupport.Proofs.Memory.Copying
import RuntimeSupport.Proofs.Program.Memory

/-!
# Stores to elements of a block

An owner writes to an element of its block through a span; whoever knows an address that a view or a
call has found stores the bytes there.  All ways lead to the same heap (`WritesElement.eq_write`),
so what is read afterwards, by elements of whatever size, is the same as well (`elementWritten`).  A
write that fails changes nothing, neither for an owner nor for a compiled program, which ends there.

The main statement is `element_writes_lawful`.
-/

namespace RuntimeSupport

open Element Memory

/-- A call that comes back has found what a view finds, and has changed nothing. -/
lemma Action.index_eq_ok {v : View} {index elemSize a : UInt64} {p q : Program}
    (h : Action.index v index elemSize p = .ok a q) : v.index index elemSize = .ok a ∧ q = p := by
  rw [Action.index] at h
  cases hv : v.index index elemSize with
  | ok a' =>
    rw [hv] at h
    cases h
    exact ⟨rfl, rfl⟩
  | error f =>
    rw [hv] at h
    exact absurd h (Program.abortWith_ne_ok f)

namespace Memory.Heap

/-- The ways to write bytes to an element of a block. -/
inductive WritesElement (h : Heap) (b : Block) (index elemSize : UInt64) (w : Bytes) : Heap → Prop
  /-- Its owner writes them through a span. -/
  | owner {h' : Heap} (hw : h.writeElement b index elemSize w = .ok h') :
      WritesElement h b index elemSize w h'
  /-- They are stored where a view finds the element, wherever the block lies. -/
  | view {address a : UInt64} (ha : (b.view address).index index elemSize = .ok a) :
      WritesElement h b index elemSize w (h.write ⟨b.handle, a - address⟩ w)
  /-- They are stored where a call of a compiled program finds it. -/
  | call {address a : UInt64} {p q : Program}
      (ha : Action.index (b.view address) index elemSize p = .ok a q) :
      WritesElement h b index elemSize w (h.write ⟨b.handle, a - address⟩ w)

/-- A heap after bytes have been written to an element of a block. -/
structure ElementWritten (h : Heap) (b : Block) (index elemSize : UInt64) (w : Bytes)
    (h' : Heap) : Prop where
  /-- The block has the bytes where they have been written, and its old ones everywhere else. -/
  written : (h.span b).Written index elemSize w (h'.span b)
  /-- Through an address that a view finds, the same bytes are read as through a span. -/
  read : ∀ address j f a, (b.view address).index j f = .ok a →
    (h'.span b).element j f = .ok (h'.read ⟨b.handle, a - address⟩ f)
  /-- The other blocks are as before. -/
  others : ∀ x ≠ b.handle, h'.cell? x = h.cell? x
  /-- Writing is not counted. -/
  counters : h'.counters = h.counters

variable {h h' : Heap} {b : Block} {index elemSize : UInt64} {w : Bytes}

/-- Every way to write to an element comes to the same. -/
lemma WritesElement.eq_write (hs : h.Sound) (hb : h.Holds b) (hw : w.length ≤ elemSize.toNat)
    (hwrites : h.WritesElement b index elemSize w h') :
    Fits b.length index elemSize ∧
      h' = h.write ⟨b.handle, UInt64.ofNat (position index elemSize)⟩ w := by
  cases hwrites with
  | owner hwrite =>
    obtain ⟨t, ht, hset⟩ := bind_eq_ok.1 hwrite
    obtain rfl := pure_eq_ok.1 hset
    obtain ⟨hf, rfl⟩ := Span.writeElement_eq_ok hw ht
    rw [hs.size_span hb] at hf
    refine ⟨hf, ?_⟩
    rw [write, hf.toNat_position, hs.span_eq hb]
  | view ha =>
    obtain ⟨hf, hdistance, -⟩ := View.index_eq_ok ha
    exact ⟨hf, congrArg (fun o => h.write ⟨b.handle, o⟩ w) hdistance⟩
  | call ha =>
    obtain ⟨hf, hdistance, -⟩ := View.index_eq_ok (Action.index_eq_ok ha).1
    exact ⟨hf, congrArg (fun o => h.write ⟨b.handle, o⟩ w) hdistance⟩

lemma elementWritten (hs : h.Sound) (hb : h.Holds b) (hw : w.length ≤ elemSize.toNat)
    (hwrites : h.WritesElement b index elemSize w h') :
    h.ElementWritten b index elemSize w h' := by
  obtain ⟨hf, hwrite⟩ := hwrites.eq_write hs hb hw
  have hroom : (UInt64.ofNat (position index elemSize)).toNat + w.length ≤ b.length.toNat := by
    rw [hf.toNat_position]
    exact Nat.le_trans (Nat.add_le_add_left hw _) hf.position_add_le
  have hassigned := hs.assigned_write hb hroom
  have hrewrites := hs.rewrites_write hb hroom
  rw [← hwrite] at hassigned hrewrites
  rw [hf.toNat_position] at hassigned
  have hs' := hrewrites.sound hs hb
  have hb' := hrewrites.holds hb
  constructor
  case written =>
    rw [← hs.size_span hb] at hf
    refine Span.written hf hw ?_ fun k => ?_
    · rw [hs'.length_span hb', hs.length_span hb]
    · rw [hs'.span_eq hb', hs.span_eq hb]
      split
      · next hk =>
        have hinside := hassigned.inside (k - position index elemSize) (by omega)
        rwa [Nat.add_sub_cancel' hk.1] at hinside
      · exact hassigned.outside k (by omega)
  case read =>
    intro address j f a ha
    obtain ⟨hj, -, hdistance⟩ := View.index_eq_ok ha
    have hdistance : (a - address).toNat = position j f := hdistance
    have hj : Fits b.length j f := hj
    rw [← hs'.size_span hb'] at hj
    rw [Span.element_of_fits hj, read, hdistance, hs'.span_eq hb']
  case others => exact hassigned.others
  case counters => exact hassigned.counters

end Memory.Heap

/-- An owner writes to an element of its block if there is one, and otherwise is told the fault and
finds all as it was. -/
lemma Memory.Session.Sound.writeElement_lawful {s : Session} {id : Nat} {b : Block}
    {index elemSize : UInt64} {w : Bytes} (hs : s.Sound) (howned : s.owned? id = some b)
    (hw : w.length ≤ elemSize.toNat) :
    (Fits b.length index elemSize →
      ∃ heap, s.step (.writeElement id index elemSize w) = s.change b heap ∧
        s.heap.ElementWritten b index elemSize w heap) ∧
    (¬Fits b.length index elemSize →
      s.step (.writeElement id index elemSize w) =
        (s, .fault (Element.fault b.length index elemSize))) := by
  have hb := hs.owned howned
  have hstep : s.step (.writeElement id index elemSize w) =
      s.changeResult b (s.heap.writeElement b index elemSize w) := by
    rw [Session.step, Session.withOwned, howned]
  rw [hstep, Heap.writeElement, ← hs.heap.size_span hb]
  constructor
  · intro hf
    have hwrite := Span.writeElement_of_fits hf w
    rw [hwrite]
    refine ⟨_, rfl, Heap.elementWritten hs.heap hb hw (.owner ?_)⟩
    rw [Heap.writeElement, hwrite]
    rfl
  · intro hf
    rw [Span.writeElement_of_not_fits hf w]
    rfl

namespace Program

/-- What becomes of memory when a compiled program finds an element of what a variable points at and
stores there. -/
structure StoresLawfully (p : Program) (id : Nat) (x : Handle) : Prop where
  /-- A byte is stored there, and nowhere else. -/
  byte : ∀ i elemSize byte a q, (Step.storeAt id i elemSize byte).perform p = .ok a q →
    p.heap.ElementWritten (p.heap.ofRaw x) i elemSize [byte] q.heap ∧ q.pointers = p.pointers
  /-- Where the element is not found, the process ends with its memory as it was. -/
  byteFails : ∀ i elemSize byte e q, (Step.storeAt id i elemSize byte).perform p = .error e q →
    p.SameMemory q
  /-- As many bytes as the element has, or fewer, can be stored at the distance that is answered. -/
  bytes : ∀ i elemSize a q (w : Bytes), (Step.index (.block id) i elemSize).perform p = .ok a q →
    w.length ≤ elemSize.toNat → ∃ n, a = .offset n ∧
      ∃ a' r, (Step.poke id n w).perform q = .ok a' r ∧
        p.heap.ElementWritten (p.heap.ofRaw x) i elemSize w r.heap ∧ r.pointers = p.pointers
  /-- Where no distance is answered, the process ends with its memory as it was. -/
  indexFails : ∀ i elemSize e q, (Step.index (.block id) i elemSize).perform p = .error e q →
    p.SameMemory q

variable {p q : Program} {id : Nat} {x : Handle} {i elemSize : UInt64}

lemma perform_index_eq_ok {a : Answer} (hx : p.pointee? id = some x)
    (h : (Step.index (.block id) i elemSize).perform p = .ok a q) :
    ∃ address, ((p.heap.ofRaw x).view somewhere).index i elemSize = .ok address ∧
      a = .offset (address - somewhere) ∧ q = p := by
  rw [Step.perform, withArray_eq, array?, hx] at h
  have hcall : (Action.index ((p.heap.ofRaw x).view somewhere) i elemSize >>= fun address =>
    pure (Answer.offset (address - somewhere))) p = .ok a q := h
  cases hindex : Action.index ((p.heap.ofRaw x).view somewhere) i elemSize p with
  | ok address r =>
    obtain ⟨hview, rfl⟩ := Action.index_eq_ok hindex
    rw [Action.bind_of_ok hindex] at hcall
    cases hcall
    exact ⟨address, hview, rfl, rfl⟩
  | error e r =>
    rw [Action.bind_of_error hindex] at hcall
    cases hcall

lemma storesLawfully (hp : p.heap.Sound) (hin : p.heap.Holds (p.heap.ofRaw x))
    (hx : p.pointee? id = some x) : p.StoresLawfully id x where
  byte i elemSize byte a q h := by
    obtain ⟨address, hindex, hstore⟩ := perform_storeAt_eq_ok hx h
    obtain ⟨hf, -⟩ := View.index_eq_ok hindex
    cases hstore
    exact ⟨Heap.elementWritten hp hin hf.1 (.view hindex), rfl⟩
  byteFails i elemSize byte e q h := sameMemory_storeAt hx h
  bytes i elemSize a q w h hw := by
    obtain ⟨address, hindex, rfl, rfl⟩ := perform_index_eq_ok hx h
    refine ⟨_, rfl, ?_⟩
    rw [perform_poke id _ _ hx, if_pos (inside_of_index hindex hw)]
    exact ⟨_, _, rfl, Heap.elementWritten hp hin hw (.view hindex), rfl⟩
  indexFails i elemSize e q h := by
    have hsame := sameMemory_perform (c := .index (.block id) i elemSize) not_false p
    rwa [Action.final_of_error h] at hsame

end Program

/-- Elements are read back as they were written.  If bytes are written to an element, whatever their
number as long as they fit it, then the buffer keeps its length, has these bytes where the element
starts and its old ones everywhere else; and every element, of whatever size, is found or refused as
before, and has the new bytes exactly where it overlaps them.  So the element itself is read back,
and another one of the same size is as before.  All this holds of a block as well, whether its owner
writes to it through a span or somebody stores bytes where a view or a call has found the element;
and whoever fails to find it has changed nothing. -/
theorem element_writes_lawful :
    (∀ (s t : Span) (index elemSize : UInt64) (w : Bytes), w.length ≤ elemSize.toNat →
      s.writeElement index elemSize w = .ok t → s.Written index elemSize w t) ∧
    (∀ (h h' : Heap) (b : Block) (index elemSize : UInt64) (w : Bytes), h.Sound → h.Holds b →
      w.length ≤ elemSize.toNat → h.WritesElement b index elemSize w h' →
      h.ElementWritten b index elemSize w h') ∧
    (∀ (s : Session) (id : Nat) (b : Block) (index elemSize : UInt64) (w : Bytes), s.Sound →
      s.owned? id = some b → w.length ≤ elemSize.toNat →
      (Fits b.length index elemSize →
        ∃ heap, s.step (.writeElement id index elemSize w) = s.change b heap ∧
          s.heap.ElementWritten b index elemSize w heap) ∧
      (¬Fits b.length index elemSize →
        s.step (.writeElement id index elemSize w) =
          (s, .fault (Element.fault b.length index elemSize)))) ∧
    ∀ (platform : Platform) (environment : Environment) (args : List Bytes) (device : Device)
      (steps : List Program.Step) (p : Program) (id : Nat) (x : Handle),
      (Program.start platform environment args device).after? steps = some p →
      p.pointee? id = some x → p.StoresLawfully id x := by
  refine ⟨?_, ?_, ?_, ?_⟩
  · exact fun s t index elemSize w hw => Span.written_of_writeElement hw
  · exact fun h h' b index elemSize w hs hb hw => Heap.elementWritten hs hb hw
  · exact fun s id b index elemSize w hs howned hw => hs.writeElement_lawful howned hw
  · intro platform environment args device steps p id x hsteps hx
    obtain ⟨script, hm⟩ := Program.exists_owner_after? hsteps
    obtain ⟨hp, hin⟩ := hm.holds hx
    exact Program.storesLawfully hp hin hx

/-- One byte is written to the second of three elements of two bytes each, and an element of four
bytes that overlaps it is read; the same byte is stored where a view finds the element, by an owner,
and by a compiled program; a fourth element is not there. -/
theorem element_writes_lawful_overlapping :
    let s := ((Session.start standardCapacity).run [.ofBytes 0 [1, 2, 3, 4, 5, 6]]).1
    let b : Block := ⟨⟨0⟩, 6⟩
    (∃ t bs, Span.writeElement ⟨[1, 2, 3, 4, 5, 6]⟩ 1 2 [9] = .ok t ∧ t.element 0 4 = .ok bs ∧
      bs[2]? = some 9 ∧ bs[3]? = some 4) ∧
    (∃ a, (b.view 64).index 1 2 = .ok a ∧
      s.heap.ElementWritten b 1 2 [9] (s.heap.write ⟨b.handle, a - 64⟩ [9])) ∧
    (∃ heap, s.step (.writeElement 0 1 2 [9]) = s.change b heap ∧
      s.heap.ElementWritten b 1 2 [9] heap) ∧
    s.step (.writeElement 0 3 2 [9]) = (s, .fault (.indexOutOfBounds 3 2 6)) ∧
    ∃ p x a q, (Program.start .standard .empty [] .working).after? [.allocate 0 2 3] = some p ∧
      p.pointee? 0 = some x ∧ (Program.Step.storeAt 0 1 2 9).perform p = .ok a q ∧
      p.heap.ElementWritten (p.heap.ofRaw x) 1 2 [9] q.heap := by
  intro s b
  have hs : s.Sound := (Session.sound_start standardCapacity).run _
  have hb : s.owned? 0 = some b := by decide +kernel
  obtain ⟨hspan, hheap, hsession, hprogram⟩ := element_writes_lawful
  refine ⟨?_, ?_, ?_, ?_, ?_⟩
  · have hwritten := hspan ⟨[1, 2, 3, 4, 5, 6]⟩ _ 1 2 [9] (by decide) rfl
    obtain ⟨bs, hbs, -, -, hbyte⟩ := hwritten.reread 0 4 _ rfl
    exact ⟨_, bs, rfl, hbs, hbyte 2 (by decide), hbyte 3 (by decide)⟩
  · have hview : (b.view 64).index 1 2 = .ok 66 := rfl
    exact ⟨66, hview, hheap s.heap _ b 1 2 [9] hs.heap (hs.owned hb) (by decide) (.view hview)⟩
  · obtain ⟨hfound, -⟩ := hsession s 0 b 1 2 [9] hs hb (by decide)
    have hinside : Fits b.length 1 2 := ⟨by decide, by decide⟩
    exact hfound hinside
  · obtain ⟨-, hrefused⟩ := hsession s 0 b 3 2 [9] hs hb (by decide)
    have hbehind : ¬Fits b.length 3 2 := fun hf => absurd hf.2 (by decide)
    exact hrefused hbehind
  · have hlawful := hprogram .standard .empty [] .working [.allocate 0 2 3] _ 0 _ rfl rfl
    exact ⟨_, _, _, _, rfl, rfl, rfl, (hlawful.byte 1 2 9 _ _ rfl).1⟩

end RuntimeSupport

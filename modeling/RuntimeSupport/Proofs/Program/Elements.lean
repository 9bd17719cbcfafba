import RuntimeSupport.Proofs.Element.Access
import RuntimeSupport.Proofs.Element.Tiling
import RuntimeSupport.Proofs.Memory.Allocation
import RuntimeSupport.Proofs.Program.Ownership

/-!
# Blocks have the elements that they were asked for

A block that is handed out for some elements is as long as these are together.  Since elements tile
a buffer, it has just as many as were asked for, and they can be found on each way (`hasElements`).
Whoever owns the block or knows only a pointer to it can rely on that as long as it is in use.

The main statement is `elements_tile`.
-/

namespace RuntimeSupport

open Element Memory

/-- A block has so many elements of the given size, and they are found on each way by the numbers
below that. -/
structure Memory.Heap.HasElements (h : Heap) (b : Block) (count elemSize : UInt64) : Prop where
  /-- A span counts them. -/
  span_count : (h.span b).elementCount elemSize = .ok count
  /-- A view counts them, wherever it lies. -/
  view_count : ∀ address, (b.view address).elementCount elemSize = .ok count
  /-- A span reads them. -/
  read_iff : ∀ i, (∃ bs, (h.span b).element i elemSize = .ok bs) ↔ i < count
  /-- A span writes them. -/
  write_iff : ∀ i new, (∃ s, (h.span b).writeElement i elemSize new = .ok s) ↔ i < count
  /-- A view finds their addresses. -/
  view_iff : ∀ address i, (∃ a, (b.view address).index i elemSize = .ok a) ↔ i < count
  /-- A call of a compiled program comes back with their addresses. -/
  call_iff : ∀ address i p,
    (∃ a q, Action.index (b.view address) i elemSize p = .ok a q) ↔ i < count

namespace Memory.Heap

variable {h h' : Heap} {b : Block} {count elemSize : UInt64}

/-- A block that is as long as its elements are together has them. -/
lemma hasElements (hne : elemSize ≠ 0) (hlength : (h.span b).bytes.length = b.length.toNat)
    (htotal : count.toNat * elemSize.toNat = b.length.toNat) : h.HasElements b count elemSize := by
  have hcount : b.length / elemSize = count := by
    rw [← UInt64.toNat_inj, UInt64.toNat_div, ← htotal, Nat.mul_div_cancel _ (toNat_pos hne)]
  have hfits : ∀ i, Fits b.length i elemSize ↔ i < count := fun i => hcount ▸ fits_iff_lt hne
  have haccess : ∀ address i, Access (h.span b).bytes (b.view address) i elemSize :=
    fun address i => access hlength.symm i elemSize
  have hsize : (h.span b).size = b.length := Span.size_eq (v := b.view 0) hlength.symm
  constructor
  case span_count => rw [Span.elementCount, hsize, Element.count, if_neg hne, hcount]
  case view_count =>
    intro address
    rw [View.elementCount, Block.view, Element.count, if_neg hne, hcount]
  case read_iff =>
    intro i
    rw [← hfits i]
    have hread := haccess 0 i
    exact exists_ok_iff (fun hf => ⟨_, hread.read hf⟩) fun hf => ⟨_, (hread.refused hf).2.2.1⟩
  case write_iff =>
    intro i new
    rw [← hfits i]
    have hwrite := haccess 0 i
    exact exists_ok_iff (fun hf => ⟨_, hwrite.write hf new⟩)
      fun hf => ⟨_, (hwrite.refused hf).2.2.2 new⟩
  case view_iff =>
    intro address i
    rw [← hfits i]
    have hview := haccess address i
    exact exists_ok_iff (fun hf => ⟨_, hview.view hf⟩) fun hf => ⟨_, (hview.refused hf).1⟩
  case call_iff =>
    intro address i p
    rw [← hfits i]
    have hcall := haccess address i
    by_cases hf : Fits b.length i elemSize
    · exact iff_of_true ⟨_, p, hcall.call hf p⟩ hf
    · refine iff_of_false ?_ hf
      rintro ⟨a, q, hindex⟩
      rw [(hcall.refused hf).2.1 p] at hindex
      exact Program.abortWith_ne_ok _ hindex

/-- A block has the elements that it was handed out for. -/
lemma hasElements_of_allocate (hne : elemSize ≠ 0)
    (hb : h.allocate count elemSize = .ok (b, h')) : h'.HasElements b count elemSize := by
  obtain ⟨htotal, hcell⟩ := allocate_eq_ok hb
  refine hasElements hne ?_ htotal
  rw [bytes_span_zeroed hcell, List.length_replicate]

/-- It has them as long as it is in use, whatever else happens. -/
lemma Sound.hasElements_of_allocate {g : Heap} (hg : g.Sound) (hin : g.Holds b) (hne : elemSize ≠ 0)
    (hb : h.allocate count elemSize = .ok (b, h')) : g.HasElements b count elemSize := by
  obtain ⟨htotal, -⟩ := allocate_eq_ok hb
  exact hasElements hne (hg.length_span hin) htotal

end Memory.Heap

/-- A call that comes back with a block has asked the heap for it. -/
lemma Action.allocate_eq_ok {size count : UInt64} {x : Handle} {p q : Program}
    (hcall : Action.allocate size count p = .ok x q) :
    p.heap.allocate count size = .ok (q.heap.ofRaw x, q.heap) := by
  rw [allocate, get_bind] at hcall
  rcases hr : p.heap.allocate count size with f | ⟨b, heap⟩
  · rw [hr] at hcall
    exact absurd hcall (Program.abortWith_ne_ok f)
  · obtain ⟨-, hcell⟩ := Heap.allocate_eq_ok hr
    obtain ⟨errors, hchange⟩ := changeHeap_apply heap (.allocated b.length) p
    rw [hr, handOut, bind_of_ok hchange] at hcall
    cases hcall
    have hown : heap.ofRaw b.handle = b := Heap.ofRaw_handle ⟨_, hcell, rfl⟩
    exact congrArg (fun b => Except.ok (b, heap)) hown.symm

/-- The elements of a buffer tile it: those with the numbers below some count are found and no
others, they lie side by side from the start of the buffer on, and what is left behind them is
shorter than an element.  So a block that is handed out for elements has just these, for its owner
as for a compiled program, and as long as it is in use. -/
theorem elements_tile :
    (∀ size elemSize, elemSize ≠ 0 →
      ∃ n, Element.count size elemSize = .ok n ∧ Tiles size elemSize n) ∧
    (∀ (h h' : Heap) (b : Block) (count elemSize : UInt64), elemSize ≠ 0 →
      h.allocate count elemSize = .ok (b, h') →
      h'.HasElements b count elemSize ∧
        ∀ g : Heap, g.Sound → g.Holds b → g.HasElements b count elemSize) ∧
    ∀ (p q : Program) (size count : UInt64) (x : Handle), size ≠ 0 →
      Action.allocate size count p = .ok x q →
      q.heap.HasElements (q.heap.ofRaw x) count size ∧
        ∀ g : Heap, g.Sound → g.Holds (q.heap.ofRaw x) →
          g.HasElements (q.heap.ofRaw x) count size := by
  have hblock : ∀ (h h' : Heap) (b : Block) (count elemSize : UInt64), elemSize ≠ 0 →
      h.allocate count elemSize = .ok (b, h') →
      h'.HasElements b count elemSize ∧
        ∀ g : Heap, g.Sound → g.Holds b → g.HasElements b count elemSize := by
    intro h h' b count elemSize hne hb
    exact ⟨Heap.hasElements_of_allocate hne hb,
      fun g hg hin => hg.hasElements_of_allocate hin hne hb⟩
  refine ⟨fun size elemSize hne => ⟨_, if_neg hne, tiles hne⟩, hblock, ?_⟩
  intro p q size count x hne hcall
  exact hblock p.heap q.heap _ count size hne (Action.allocate_eq_ok hcall)

/-- Seventeen bytes are three elements of five bytes and two bytes more; an owner of three such
elements still has them when the second has been written; a compiled program that asks for three of
them finds the last one. -/
theorem elements_tile_three :
    let s := ((Session.start standardCapacity).run [.allocate 0 3 5, .writeElement 0 1 5 [7]]).1
    (5 : UInt64) ≠ 0 ∧ (∃ n, Element.count 17 5 = .ok n ∧ Tiles 17 5 n) ∧
      (∃ b h', (Heap.empty standardCapacity).allocate 3 5 = .ok (b, h') ∧
        h'.HasElements b 3 5 ∧ s.heap.HasElements b 3 5) ∧
      ∃ x q, Action.allocate 5 3 (Program.start .standard .empty [] .working) = .ok x q ∧
        (∃ a r, Action.index ((q.heap.ofRaw x).view 64) 2 5 q = .ok a r) ∧
        ¬∃ a r, Action.index ((q.heap.ofRaw x).view 64) 3 5 q = .ok a r := by
  intro s
  obtain ⟨htiles, hblock, hcall⟩ := elements_tile
  have hne : (5 : UInt64) ≠ 0 := by decide
  have hs : s.Sound := (Session.sound_start standardCapacity).run _
  have hb : s.owned? 0 = some ⟨⟨0⟩, 15⟩ := by decide +kernel
  obtain ⟨hnew, hkept⟩ := hblock (.empty standardCapacity) _ ⟨⟨0⟩, 15⟩ 3 5 hne rfl
  have hprogram := (hcall (Program.start .standard .empty [] .working) _ 5 3 _ hne rfl).1
  have hstill := hkept s.heap hs.heap (hs.owned hb)
  refine ⟨hne, htiles 17 5 hne, ⟨_, _, rfl, hnew, hstill⟩, _, _, rfl, ?_, ?_⟩
  · exact (hprogram.call_iff 64 2 _).2 (by decide)
  · exact fun hfound => absurd ((hprogram.call_iff 64 3 _).1 hfound) (by decide)

end RuntimeSupport

import RuntimeSupport.Proofs.Element.Range
import RuntimeSupport.Proofs.Memory.Heap
import RuntimeSupport.Proofs.Outcome

/-!
# What writing does to a block

There are many ways to write into a block: plain stores, checked copies, moves, elements, and raw
copies.  Whatever they write and wherever, each of them only gives the block other bytes, as many as
before (`Heap.Rewrites`).  The checks that the operations make are just what this needs.
-/

namespace RuntimeSupport

/-! ## Lengths -/

lemma Region.length_read_le (bs : Bytes) (offset count : Nat) :
    (Region.read bs offset count).length ≤ count := by
  unfold Region.read
  exact List.length_take_le count (bs.drop offset)

lemma Region.length_cycle_le (bs : Bytes) (count : Nat) :
    (Region.cycle bs count).length ≤ count :=
  List.length_take_le count _

namespace Memory

/-- What an owner finds in range lies inside the block. -/
lemma Block.range_eq_ok {b : Block} {offset count : UInt64} {r : ByteRange}
    (h : b.range offset count = .ok r) :
    r.start = offset ∧ offset.toNat + count.toNat ≤ b.length.toNat := by
  unfold Block.range at h
  split at h
  · next stop hstop =>
    split at h
    · next hle =>
      obtain rfl : (⟨offset, stop⟩ : ByteRange) = r := by simpa using h
      rw [Word.add?_eq_some_iff] at hstop
      refine ⟨rfl, ?_⟩
      rw [hstop]
      exact UInt64.le_iff_toNat_le.1 hle
    · simp at h
  · simp at h

/-- Whether an owner and a heap agree about a block. -/
def Heap.Holds (h : Heap) (b : Block) : Prop :=
  ∃ c, h.cell? b.handle = some c ∧ c.length = b.length

/-- A heap is changed at most in the bytes of one block, and not in how many there are. -/
def Heap.Rewrites (h : Heap) (b : Block) (h' : Heap) : Prop :=
  ∃ bs : Bytes, bs.length = b.length.toNat ∧ h' = h.setBytes b.handle bs

section

variable {h h' : Heap} {b : Block}

lemma Heap.Sound.length_cell (hs : h.Sound) (hb : h.Holds b) :
    (h.cell b.handle).bytes.length = b.length.toNat := by
  obtain ⟨c, hc, hlen⟩ := hb
  rw [cell_eq hc, (hs.cells hc).length_bytes, hlen]

/-- An owner sees all bytes of its block. -/
lemma Heap.Sound.span_eq (hs : h.Sound) (hb : h.Holds b) :
    h.span b = ⟨(h.cell b.handle).bytes⟩ := by
  rw [span, List.take_of_length_le (Nat.le_of_eq (hs.length_cell hb))]

lemma Heap.Sound.length_span (hs : h.Sound) (hb : h.Holds b) :
    (h.span b).bytes.length = b.length.toNat := by
  rw [hs.span_eq hb]
  exact hs.length_cell hb

lemma Heap.Sound.length_lt (hs : h.Sound) (hb : h.Holds b) : b.length.toNat < 2 ^ 64 - 1 := by
  obtain ⟨c, hc, hlen⟩ := hb
  have hle := (hs.cells hc).footprint_le
  rw [hlen, footprint, largestFootprint] at hle
  omega

lemma Heap.Sound.size_span (hs : h.Sound) (hb : h.Holds b) : (h.span b).size = b.length := by
  have hlt := hs.length_lt hb
  rw [← UInt64.toNat_inj, Span.size, Word.toNat_ofLength, hs.length_span hb]
  omega

lemma Heap.Rewrites.sound (hr : h.Rewrites b h') (hs : h.Sound) (hb : h.Holds b) : h'.Sound := by
  obtain ⟨bs, hlength, rfl⟩ := hr
  obtain ⟨c, hc, hsame⟩ := hb
  exact hs.setBytes hc (by rw [hlength, hsame])

lemma Heap.Rewrites.holds (hr : h.Rewrites b h') (hb : h.Holds b) : h'.Holds b := by
  obtain ⟨bs, -, rfl⟩ := hr
  obtain ⟨c, hc, hsame⟩ := hb
  refine ⟨{ c with bytes := bs }, ?_, hsame⟩
  rw [cell?_setBytes hc, if_pos rfl]

lemma Heap.Sound.rewrites_write (hs : h.Sound) (hb : h.Holds b) {offset : UInt64} {new : Bytes}
    (hle : offset.toNat + new.length ≤ b.length.toNat) :
    h.Rewrites b (h.write ⟨b.handle, offset⟩ new) := by
  have hlen := hs.length_cell hb
  refine ⟨Region.write (h.cell b.handle).bytes offset.toNat new, ?_, rfl⟩
  rw [Region.length_write (by omega), hlen]

lemma Heap.Sound.rewrites_copyFrom (hs : h.Sound) (hb : h.Holds b) {offset : UInt64} {new : Bytes}
    (h₁ : h.copyFrom b offset new = .ok h') : h.Rewrites b h' := by
  obtain ⟨r, hr, hw⟩ := bind_eq_ok.1 h₁
  obtain ⟨rfl, hle⟩ := Block.range_eq_ok hr
  obtain rfl := pure_eq_ok.1 hw
  -- bytes whose length does not fit a word are as long as no block can be
  have hlt := hs.length_lt hb
  rw [Word.toNat_ofLength] at hle
  exact hs.rewrites_write hb (by omega)

lemma Heap.Sound.rewrites_moveWithin (hs : h.Sound) (hb : h.Holds b) {start stop dest : UInt64}
    (h₁ : h.moveWithin b start stop dest = .ok h') : h.Rewrites b h' := by
  unfold Heap.moveWithin at h₁
  split at h₁
  · simp at h₁
  · obtain ⟨source, -, h₁⟩ := bind_eq_ok.1 h₁
    obtain ⟨target, ht, hw⟩ := bind_eq_ok.1 h₁
    obtain ⟨rfl, hle⟩ := Block.range_eq_ok ht
    obtain rfl := pure_eq_ok.1 hw
    have hread := Region.length_read_le (h.cell b.handle).bytes source.start.toNat
      (stop - start).toNat
    exact hs.rewrites_write hb (Nat.le_trans (Nat.add_le_add_left hread _) hle)

lemma Heap.Sound.rewrites_writeElement (hs : h.Sound) (hb : h.Holds b) {index elemSize : UInt64}
    {new : Bytes} (h₁ : h.writeElement b index elemSize new = .ok h') : h.Rewrites b h' := by
  obtain ⟨s, hspan, hw⟩ := bind_eq_ok.1 h₁
  obtain rfl := pure_eq_ok.1 hw
  obtain ⟨r, hr, hs'⟩ := bind_eq_ok.1 hspan
  obtain rfl := pure_eq_ok.1 hs'
  have hbytes := hs.length_span hb
  obtain ⟨hfits, hstart, -⟩ := Element.range_eq_ok_iff.1 hr
  have hle := hfits.position_add_le
  rw [hs.size_span hb] at hle
  have hnew : (new.take elemSize.toNat).length ≤ elemSize.toNat :=
    List.length_take_le _ _
  refine ⟨_, ?_, rfl⟩
  rw [Region.length_write (by omega), hbytes]

/-- A means of copying raw bytes writes to its destination, and no more than it is told to. -/
def Transfers (transfer : Heap → Location → Location → UInt64 → Heap) : Prop :=
  ∀ h dest source count, ∃ new : Bytes,
    new.length ≤ count.toNat ∧ transfer h dest source count = h.write dest new

lemma transfers_moveBytes : Transfers Heap.moveBytes := by
  intro h dest source count
  exact ⟨_, Region.length_read_le _ _ _, rfl⟩

lemma transfers_copyBytes : Transfers Heap.copyBytes := by
  intro h dest source count
  refine ⟨_, ?_, rfl⟩
  have hread : (h.read source count).length ≤ count.toNat := Region.length_read_le _ _ _
  unfold Heap.readForward
  simp only
  split
  · exact Nat.le_trans (Region.length_cycle_le _ _) hread
  · exact hread

end

end Memory

end RuntimeSupport

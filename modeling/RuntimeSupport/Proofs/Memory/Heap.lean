import RuntimeSupport.Memory.Heap
import RuntimeSupport.Proofs.Table

/-!
# What a heap keeps true of its cells

Every change of a heap is put together from four: a cell comes into use, goes out of use, gets other
bytes, or an event is recorded.  For each of them this file says which cells there are afterwards,
how the weights of the cells add up, and that `Heap.Sound` is kept.
-/

namespace RuntimeSupport.Memory

/-- A cell has as many bytes as its header tells, and no more than can be asked for. -/
structure Cell.Sound (c : Cell) : Prop where
  length_bytes : c.bytes.length = c.length.toNat
  footprint_le : footprint c.length ≤ largestFootprint

/-- The cells of a heap are sound, have handles that have been handed out, and fit the memory that
there is. -/
structure Heap.Sound (h : Heap) : Prop where
  cells : ∀ {x c}, h.cell? x = some c → c.Sound
  number_lt : ∀ {x c}, h.cell? x = some c → x.number < h.fresh
  occupied_le : h.occupied ≤ h.capacity

namespace Heap

/-- The sum of the weights of all cells, each of which weighs what its length says. -/
def weigh (f : UInt64 → Nat) (h : Heap) : Nat := h.cells.total fun c => f c.length

lemma occupied_eq_weigh (h : Heap) : h.occupied = h.weigh footprint := rfl

lemma cell_eq {h : Heap} {x : Handle} {c : Cell} (hc : h.cell? x = some c) : h.cell x = c := by
  rw [cell, hc, Option.getD_some]

/-! ## Which cells there are -/

@[simp] lemma cell?_empty (capacity : Nat) (x : Handle) : (empty capacity).cell? x = none := rfl

@[simp] lemma cell?_record (h : Heap) (e : Event) (x : Handle) :
    (h.record e).cell? x = h.cell? x := rfl

@[simp] lemma cell?_insert (h : Heap) (c : Cell) (x : Handle) :
    (h.insert c).2.cell? x = if x = ⟨h.fresh⟩ then some c else h.cell? x :=
  h.cells.get?_set _ _ _

@[simp] lemma cell?_erase (h : Heap) (x y : Handle) :
    (h.erase x).cell? y = if y = x then none else h.cell? y :=
  h.cells.get?_erase _ _

@[simp] lemma cell?_free (h : Heap) (b : Block) (x : Handle) :
    (h.free b).cell? x = if x = b.handle then none else h.cell? x :=
  h.cell?_erase b.handle x

lemma setBytes_eq {h : Heap} {x : Handle} {c : Cell} (hc : h.cell? x = some c) (bs : Bytes) :
    h.setBytes x bs = { h with cells := h.cells.set x { c with bytes := bs } } := by
  rw [setBytes, hc]

lemma cell?_setBytes {h : Heap} {x : Handle} {c : Cell} (hc : h.cell? x = some c) (bs : Bytes)
    (y : Handle) :
    (h.setBytes x bs).cell? y = if y = x then some { c with bytes := bs } else h.cell? y := by
  rw [setBytes_eq hc]
  exact h.cells.get?_set _ _ _

lemma cell?_setBytes_of_ne {h : Heap} {x y : Handle} (hne : y ≠ x) (bs : Bytes) :
    (h.setBytes x bs).cell? y = h.cell? y := by
  cases hc : h.cell? x with
  | none => rw [setBytes, hc]
  | some c => rw [cell?_setBytes hc, if_neg hne]

lemma setBytes_counters (h : Heap) (x : Handle) (bs : Bytes) :
    (h.setBytes x bs).counters = h.counters := by
  unfold setBytes
  cases h.cell? x <;> rfl

lemma setBytes_capacity (h : Heap) (x : Handle) (bs : Bytes) :
    (h.setBytes x bs).capacity = h.capacity := by
  unfold setBytes
  cases h.cell? x <;> rfl

/-! ## What the cells weigh -/

variable {f : UInt64 → Nat}

lemma weigh_erase {h : Heap} {x : Handle} {c : Cell} (hc : h.cell? x = some c) :
    (h.erase x).weigh f + f c.length = h.weigh f := by
  have htotal := h.cells.total_erase (fun c => f c.length) x
  rw [Table.weight_of_some hc] at htotal
  exact htotal

lemma weigh_setBytes (h : Heap) (x : Handle) (bs : Bytes) :
    (h.setBytes x bs).weigh f = h.weigh f := by
  cases hc : h.cell? x with
  | none => rw [setBytes, hc]
  | some c =>
    rw [setBytes_eq hc]
    have htotal := h.cells.total_set (fun c => f c.length) x { c with bytes := bs }
    rw [Table.weight_of_some hc] at htotal
    exact Nat.add_right_cancel htotal

lemma Sound.cell?_fresh {h : Heap} (hs : h.Sound) : h.cell? ⟨h.fresh⟩ = none := by
  cases hc : h.cell? ⟨h.fresh⟩ with
  | none => rfl
  | some c => exact absurd (hs.number_lt hc) (Nat.lt_irrefl _)

lemma Sound.weigh_insert {h : Heap} (hs : h.Sound) (c : Cell) :
    (h.insert c).2.weigh f = h.weigh f + f c.length := by
  have htotal := h.cells.total_set (fun c => f c.length) ⟨h.fresh⟩ c
  rw [Table.weight_of_none hs.cell?_fresh, Nat.add_zero] at htotal
  exact htotal

/-! ## Soundness is kept -/

lemma sound_empty (capacity : Nat) : (empty capacity).Sound where
  cells h := by simp at h
  number_lt h := by simp at h
  occupied_le := Nat.zero_le capacity

lemma Sound.record {h : Heap} (hs : h.Sound) (e : Event) : (h.record e).Sound :=
  ⟨hs.cells, hs.number_lt, hs.occupied_le⟩

lemma Sound.insert {h : Heap} (hs : h.Sound) {c : Cell} (hc : c.Sound)
    (hroom : h.occupied + footprint c.length ≤ h.capacity) : (h.insert c).2.Sound where
  cells {x d} hd := by
    rw [cell?_insert] at hd
    split at hd
    · obtain rfl : c = d := by simpa using hd
      exact hc
    · exact hs.cells hd
  number_lt {x d} hd := by
    show x.number < h.fresh + 1
    rw [cell?_insert] at hd
    split at hd
    · next hx =>
      rw [hx]
      exact Nat.lt_succ_self _
    · exact Nat.lt_succ_of_lt (hs.number_lt hd)
  occupied_le := by
    -- the handle is fresh, so no other cell goes when this one comes
    show (h.insert c).2.occupied ≤ h.capacity
    rw [occupied_eq_weigh, hs.weigh_insert]
    exact hroom

lemma Sound.erase {h : Heap} (hs : h.Sound) (x : Handle) : (h.erase x).Sound where
  cells {y c} hc := by
    rw [cell?_erase] at hc
    split at hc
    · simp at hc
    · exact hs.cells hc
  number_lt {y c} hc := by
    rw [cell?_erase] at hc
    split at hc
    · simp at hc
    · exact hs.number_lt hc
  occupied_le := by
    have htotal := h.cells.total_erase (fun c => footprint c.length) x
    have hle : (h.erase x).occupied ≤ h.occupied := Nat.le.intro htotal
    exact Nat.le_trans hle hs.occupied_le

lemma Sound.free {h : Heap} (hs : h.Sound) (b : Block) : (h.free b).Sound :=
  (hs.erase b.handle).record _

lemma Sound.setBytes {h : Heap} (hs : h.Sound) {x : Handle} {c : Cell} (hc : h.cell? x = some c)
    {bs : Bytes} (hlen : bs.length = c.length.toNat) : (h.setBytes x bs).Sound where
  cells {y d} hd := by
    rw [cell?_setBytes hc] at hd
    split at hd
    · obtain rfl : { c with bytes := bs } = d := by simpa using hd
      exact ⟨hlen, (hs.cells hc).footprint_le⟩
    · exact hs.cells hd
  number_lt {y d} hd := by
    have hfresh : (h.setBytes x bs).fresh = h.fresh := by rw [setBytes_eq hc]
    rw [hfresh]
    rw [cell?_setBytes hc] at hd
    split at hd
    · next hy =>
      rw [hy]
      exact hs.number_lt hc
    · exact hs.number_lt hd
  occupied_le := by
    rw [occupied_eq_weigh, weigh_setBytes, setBytes_capacity]
    exact hs.occupied_le

end Heap

/-! ## Cells that come into use -/

lemma Cell.sound_zeroed {length : UInt64} (h : footprint length ≤ largestFootprint) :
    (Cell.zeroed length).Sound :=
  ⟨List.length_replicate, h⟩

lemma Cell.Sound.resize {c : Cell} (hc : c.Sound) {length : UInt64}
    (h : footprint length ≤ largestFootprint) : (c.resize length).Sound := by
  refine ⟨?_, h⟩
  have hlen := hc.length_bytes
  simp only [Cell.resize, List.length_append, List.length_take, List.length_replicate]
  omega

end RuntimeSupport.Memory

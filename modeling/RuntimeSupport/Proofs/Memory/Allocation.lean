import RuntimeSupport.Proofs.Memory.Account

/-!
# Requests that fail

A request for elements meets three bounds, one after the other: their product must fit a word, with
its header it must not be larger than any object can be, and there must be room for it.  The first
two depend on the product alone, as an exact number (`Heap.supplying`).

A request that fails leaves everything as it is (`Session.step_request_fault`).  A change of length
has consumed its block before it fails, and so it gives back just that block
(`Ledger.InOrder.released`).  What this means for compiled programs is said in
`RuntimeSupport.Proofs.Program.Allocation`.
-/

namespace RuntimeSupport.Memory

/-- What becomes of a request for elements.  The bounds are for the exact product. -/
structure Heap.Supplying (h : Heap) (count elemSize : UInt64) : Prop where
  /-- A product that does not fit a word is the reason of an overflow, and the only one. -/
  sizeOverflow_iff : ∀ c e, h.allocate count elemSize = .error (.sizeOverflow c e) ↔
    2 ^ 64 ≤ count.toNat * elemSize.toNat ∧ c = count ∧ e = elemSize
  /-- With a header of 16 bytes, and aligned to 16 bytes, a block must stay below half of all
  addresses. -/
  tooLarge : count.toNat * elemSize.toNat < 2 ^ 64 → 2 ^ 63 - 32 < count.toNat * elemSize.toNat →
    ∃ n : UInt64, n.toNat = count.toNat * elemSize.toNat ∧
      h.allocate count elemSize = .error (.allocationFailed n)
  /-- Otherwise it depends on the room that there is. -/
  full : count.toNat * elemSize.toNat ≤ 2 ^ 63 - 32 →
    h.capacity < h.occupied + (count.toNat * elemSize.toNat + 16) →
    ∃ n : UInt64, n.toNat = count.toNat * elemSize.toNat ∧
      h.allocate count elemSize = .error (.allocationFailed n)
  /-- What is handed out are as many zeros as the product says. -/
  granted : count.toNat * elemSize.toNat ≤ 2 ^ 63 - 32 →
    h.occupied + (count.toNat * elemSize.toNat + 16) ≤ h.capacity →
    ∃ b h', h.allocate count elemSize = .ok (b, h') ∧
      b.length.toNat = count.toNat * elemSize.toNat ∧
      h'.cell? b.handle = some ⟨b.length, List.replicate (count.toNat * elemSize.toNat) 0⟩ ∧
      (h'.span b).bytes = List.replicate (count.toNat * elemSize.toNat) 0

/-- A block has been given back, and nothing else has happened. -/
structure Heap.Released (h : Heap) (b : Block) (h' : Heap) : Prop where
  /-- The block is not in use any more. -/
  gone : h'.cell? b.handle = none
  /-- All other blocks are as before. -/
  others : ∀ x ≠ b.handle, h'.cell? x = h.cell? x
  /-- There is one block less. -/
  liveBlocks : h'.counters.liveBlocks.toNat + 1 = h.counters.liveBlocks.toNat
  /-- There are as many bytes less as the block had. -/
  liveBytes : h'.counters.liveBytes.toNat + b.length.toNat = h.counters.liveBytes.toNat
  /-- It counts as given back. -/
  frees : h'.counters.frees = h.counters.frees + 1
  /-- It does not count as handed out. -/
  allocations : h'.counters.allocations = h.counters.allocations
  /-- It does not count as changed. -/
  reallocations : h'.counters.reallocations = h.counters.reallocations

/-- A step that asks for a new block. -/
inductive Step.Requests : Step → Prop
  | allocate (id : Nat) (count elemSize : UInt64) : Requests (.allocate id count elemSize)
  | zeroed (id : Nat) (length : UInt64) : Requests (.zeroed id length)
  | ofBytes (id : Nat) (bs : Bytes) : Requests (.ofBytes id bs)

/-! ## Requests -/

variable {h h' : Heap} {b : Block} {count elemSize length : UInt64}

namespace Heap

lemma allocate_of_overflow (hover : 2 ^ 64 ≤ count.toNat * elemSize.toNat) :
    h.allocate count elemSize = .error (.sizeOverflow count elemSize) := by
  rw [allocate, Element.totalSize, Word.mul?_eq_none_iff.2 hover]
  rfl

/-- A product that fits a word is asked for as such. -/
lemma allocate_of_product (hlength : count.toNat * elemSize.toNat = length.toNat) :
    h.allocate count elemSize = h.zeroed length := by
  rw [allocate, Element.totalSize, Word.mul?_eq_some_iff.2 hlength]
  rfl

/-- Room is a matter of the length that is asked for, with 16 bytes more. -/
lemma grants_iff (h : Heap) (length : UInt64) : h.Grants length ↔
    length.toNat ≤ 2 ^ 63 - 32 ∧ h.occupied + (length.toNat + 16) ≤ h.capacity := by
  rw [Grants, footprint, largestFootprint]
  omega

/-- A block that has been handed out for elements is as long as they are together, and all zero. -/
lemma allocate_eq_ok (hb : h.allocate count elemSize = .ok (b, h')) :
    count.toNat * elemSize.toNat = b.length.toNat ∧
      h'.cell? b.handle = some (.zeroed b.length) := by
  obtain ⟨length, htotal, hzeroed⟩ := bind_eq_ok.1 hb
  obtain ⟨-, rfl, rfl⟩ := zeroed_eq_ok hzeroed
  constructor
  · rw [Element.totalSize] at htotal
    split at htotal
    · cases htotal
    · next n hn =>
      cases htotal
      exact Word.mul?_eq_some_iff.1 hn
  · rw [nextBlock, cell?_grant, if_pos rfl]

lemma bytes_span_zeroed (hcell : h.cell? b.handle = some (.zeroed b.length)) :
    (h.span b).bytes = List.replicate b.length.toNat 0 := by
  rw [span, cell_eq hcell, Cell.zeroed, List.take_replicate, Nat.min_self]

lemma allocate_of_not_grants (hlength : count.toNat * elemSize.toNat = length.toNat)
    (hroom : ¬h.Grants length) :
    h.allocate count elemSize = .error (.allocationFailed length) := by
  rw [allocate_of_product hlength, zeroed, if_neg hroom]

lemma allocate_of_grants (hlength : count.toNat * elemSize.toNat = length.toNat)
    (hroom : h.Grants length) :
    h.allocate count elemSize = .ok (h.nextBlock length, h.grant (.zeroed length)) := by
  rw [allocate_of_product hlength, zeroed, if_pos hroom]
  rfl

lemma supplying (h : Heap) (count elemSize : UInt64) : h.Supplying count elemSize := by
  have hword : count.toNat * elemSize.toNat < 2 ^ 64 →
      ∃ n : UInt64, count.toNat * elemSize.toNat = n.toNat :=
    fun hlt => ⟨UInt64.ofNat _, (UInt64.toNat_ofNat_of_lt' hlt).symm⟩
  constructor
  case sizeOverflow_iff =>
    intro c e
    constructor
    · intro herror
      by_cases hover : 2 ^ 64 ≤ count.toNat * elemSize.toNat
      · rw [allocate_of_overflow hover] at herror
        cases herror
        exact ⟨hover, rfl, rfl⟩
      · -- a product that fits a word may fail, but not like this
        obtain ⟨n, hn⟩ := hword (Nat.lt_of_not_le hover)
        rw [allocate_of_product hn, zeroed] at herror
        split at herror <;> cases herror
    · rintro ⟨hover, rfl, rfl⟩
      exact allocate_of_overflow hover
  case tooLarge =>
    intro hlt hlarge
    obtain ⟨n, hn⟩ := hword hlt
    refine ⟨n, hn.symm, allocate_of_not_grants hn ?_⟩
    rw [grants_iff]
    omega
  case full =>
    intro hle hfull
    obtain ⟨n, hn⟩ := hword (by omega)
    refine ⟨n, hn.symm, allocate_of_not_grants hn ?_⟩
    rw [grants_iff]
    omega
  case granted =>
    intro hle hroom
    obtain ⟨n, hn⟩ := hword (by omega)
    have hgrants : h.Grants n := by
      rw [grants_iff]
      omega
    have hok := allocate_of_grants hn hgrants
    obtain ⟨-, hcell⟩ := allocate_eq_ok hok
    have hbytes := bytes_span_zeroed hcell
    rw [hn]
    exact ⟨_, _, hok, rfl, hcell, hbytes⟩

end Heap

/-! ## States after a failure -/

variable {s : Session} {l : Ledger} {id : Nat} {p : Step} {f : Fault}

lemma Session.installResult_fault {r : Except Fault (Block × Heap)}
    (h : (s.installResult id r).2 = .fault f) : (s.installResult id r).1 = s := by
  rcases r with f' | ⟨b, heap⟩
  · rfl
  · cases h

/-- A request that fails has changed nothing. -/
lemma Session.step_request_fault (hp : p.Requests) (h : (s.step p).2 = .fault f) :
    (s.step p).1 = s := by
  cases hp with
  | allocate id count elemSize => exact installResult_fault h
  | zeroed id length => exact installResult_fault h
  | ofBytes id bs => exact installResult_fault h

lemma Heap.reallocate_eq_error (hr : h.reallocate b length = (.error f, h')) :
    f = .allocationFailed length ∧ h' = h.free b := by
  rw [reallocate] at hr
  simp only at hr
  split at hr
  · cases hr
  · cases hr
    exact ⟨rfl, rfl⟩

/-- A change of length that fails has given its block back. -/
lemma Session.step_reallocate_fault (h : (s.step (.reallocate id length)).2 = .fault f) :
    ∃ b, s.owned? id = some b ∧ f = .allocationFailed length ∧
      (s.step (.reallocate id length)).1 = ⟨s.heap.free b, s.slots.erase id⟩ := by
  cases hb : s.owned? id with
  | none =>
    rw [step, withOwned, hb] at h
    cases h
  | some b =>
    refine ⟨b, rfl, ?_⟩
    rw [step, withOwned, hb] at h ⊢
    simp only [reallocate] at h ⊢
    rcases hr : s.heap.reallocate b length with ⟨f' | b', heap⟩
    · rw [hr] at h
      cases h
      obtain ⟨rfl, rfl⟩ := Heap.reallocate_eq_error hr
      exact ⟨rfl, rfl⟩
    · rw [hr] at h
      cases h

/-- Where the books are in order, giving a block back wraps no counter. -/
lemma Ledger.InOrder.released (h : l.InOrder s) (hb : s.owned? id = some b) :
    s.heap.Released b (s.heap.free b) := by
  obtain ⟨-, hwrap⟩ := (Effect.released hb).balances h.sound h.capacity_le h.agrees h.balances
  have hupdates : l.updates (.released id) = (Event.freed b.length).updates := by
    rw [updates, events, h.agrees.lengthOf_of_owned hb]
    rfl
  rw [hupdates] at hwrap
  obtain ⟨-, hblocks, hbytes, -⟩ := hwrap
  have hone : (1 : UInt64).toNat ≤ s.heap.counters.liveBlocks.toNat := hblocks rfl
  have hlength : b.length.toNat ≤ s.heap.counters.liveBytes.toNat := hbytes rfl
  constructor
  case gone => rw [Heap.cell?_free, if_pos rfl]
  case others =>
    intro x hx
    rw [Heap.cell?_free, if_neg hx]
  case liveBlocks =>
    show (s.heap.counters.liveBlocks - 1).toNat + 1 = _
    rw [toNat_sub_of_le hone]
    exact Nat.sub_add_cancel hone
  case liveBytes =>
    show (s.heap.counters.liveBytes - b.length).toNat + b.length.toNat = _
    rw [toNat_sub_of_le hlength]
    exact Nat.sub_add_cancel hlength
  case frees => rfl
  case allocations => rfl
  case reallocations => rfl

end RuntimeSupport.Memory

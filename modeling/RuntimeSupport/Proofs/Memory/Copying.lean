import RuntimeSupport.Proofs.Memory.Soundness

/-!
# Copies are simultaneous assignments

There are four ways to copy bytes: into a block from outside, within a block, and between raw places
with or without regard to overlaps.  They come to the same: the destination is assigned what the
source held before, all at once, and nothing else changes (`Heap.Assigned`).  The checked ones are
carried out exactly if their ranges lie inside the block, as natural numbers tell it; if not,
nothing changes at all.

The main statement is `copies_assign`.
-/

namespace RuntimeSupport.Memory

/-- A heap in which `count` bytes of a block, from `dest` on, have been assigned those of a source;
the length of the block and everything else are as before. -/
structure Heap.Assigned (h h' : Heap) (x : Handle) (dest count : Nat)
    (source : Nat → Option UInt8) : Prop where
  /-- The bytes of the destination are those of the source. -/
  inside : ∀ j < count, (h'.cell x).bytes[dest + j]? = source j
  /-- The other bytes of the block are as before. -/
  outside : ∀ i, i < dest ∨ dest + count ≤ i → (h'.cell x).bytes[i]? = (h.cell x).bytes[i]?
  /-- The header is as before. -/
  header : (h'.cell x).length = (h.cell x).length
  /-- There are as many bytes as before. -/
  length_bytes : (h'.cell x).bytes.length = (h.cell x).bytes.length
  /-- The other blocks are as before. -/
  others : ∀ y ≠ x, h'.cell? y = h.cell? y
  /-- Copying is not counted. -/
  counters : h'.counters = h.counters

/-- No byte of the one place is a byte of the other. -/
def Location.Disjoint (count : Nat) (d e : Location) : Prop :=
  d.handle = e.handle → ∀ i < count, ∀ j < count, d.offset.toNat + i ≠ e.offset.toNat + j

/-- A move within a block that stays inside it. -/
def Block.Admits (b : Block) (start stop dest : UInt64) : Prop :=
  start.toNat ≤ stop.toNat ∧ stop.toNat ≤ b.length.toNat ∧
    dest.toNat + (stop.toNat - start.toNat) ≤ b.length.toNat

instance (b : Block) (start stop dest : UInt64) : Decidable (b.Admits start stop dest) :=
  inferInstanceAs (Decidable (_ ∧ _))

/-- What is said of a move that does not stay inside its block: a range the wrong way round comes
first, then its source, then its destination. -/
def Block.moveFault (b : Block) (start stop dest : UInt64) : Fault :=
  if stop < start then .indexOutOfBounds start 1 b.length
  else if b.length < stop then .indexOutOfBounds start (stop - start) b.length
  else .indexOutOfBounds dest (stop - start) b.length

/-! ## Ranges -/

variable {h : Heap} {b c : Block}

lemma Block.range_of_fits {offset count : UInt64}
    (hle : offset.toNat + count.toNat ≤ b.length.toNat) :
    ∃ stop, b.range offset count = .ok ⟨offset, stop⟩ := by
  have hlt := b.length.toNat_lt
  have hsum : (offset + count).toNat = offset.toNat + count.toNat := by
    rw [UInt64.toNat_add, Nat.mod_eq_of_lt (by omega)]
  have hadd : Word.add? offset count = some (offset + count) :=
    Word.add?_eq_some_iff.2 hsum.symm
  refine ⟨offset + count, ?_⟩
  rw [Block.range, hadd]
  exact if_pos (UInt64.le_iff_toNat_le.2 (by omega))

lemma Block.range_of_not_fits {offset count : UInt64}
    (hnot : ¬offset.toNat + count.toNat ≤ b.length.toNat) :
    b.range offset count = .error (.indexOutOfBounds offset count b.length) := by
  rw [Block.range]
  split
  · next stop hstop =>
    rw [Word.add?_eq_some_iff] at hstop
    refine if_neg fun hle => hnot ?_
    rw [hstop]
    exact UInt64.le_iff_toNat_le.1 hle
  · rfl

/-- Bytes that are too many for a word are too many for a block. -/
lemma Heap.Sound.fits_ofLength_iff (hs : h.Sound) (hb : h.Holds b) (offset : UInt64) (new : Bytes) :
    offset.toNat + (Word.ofLength new).toNat ≤ b.length.toNat ↔
      offset.toNat + new.length ≤ b.length.toNat := by
  have hlt := hs.length_lt hb
  rw [Word.toNat_ofLength]
  omega

/-! ## Assignments -/

lemma Heap.Sound.assigned_write (hs : h.Sound) (hb : h.Holds b) {dest : UInt64} {new : Bytes}
    (hle : dest.toNat + new.length ≤ b.length.toNat) :
    h.Assigned (h.write ⟨b.handle, dest⟩ new) b.handle dest.toNat new.length (new[·]?) := by
  obtain ⟨d, hd, hlength⟩ := hb
  have hbytes : d.bytes.length = b.length.toNat := by
    rw [(hs.cells hd).length_bytes, hlength]
  have hcell : (h.write ⟨b.handle, dest⟩ new).cell b.handle =
      { d with bytes := Region.write d.bytes dest.toNat new } := by
    have hset : (h.setBytes b.handle (Region.write d.bytes dest.toNat new)).cell? b.handle = _ :=
      cell?_setBytes hd _ b.handle
    rw [if_pos rfl] at hset
    rw [write, cell_eq hd, cell_eq hset]
  have hfits : dest.toNat + new.length ≤ d.bytes.length := by omega
  have hwrite := Region.getElem?_write hfits
  refine ⟨?_, ?_, ?_, ?_, ?_, ?_⟩
  · intro j hj
    rw [hcell, hwrite, if_pos (by omega), Nat.add_sub_cancel_left]
  · intro i hi
    rw [hcell, hwrite, if_neg (by omega), cell_eq hd]
  · rw [hcell, cell_eq hd]
  · rw [hcell, cell_eq hd]
    exact Region.length_write hfits
  · intro y hy
    exact cell?_setBytes_of_ne hy _
  · exact setBytes_counters h _ _

lemma Heap.Assigned.congr {h' : Heap} {x : Handle} {dest count : Nat}
    {source source' : Nat → Option UInt8} (ha : h.Assigned h' x dest count source)
    (hsame : ∀ j < count, source j = source' j) : h.Assigned h' x dest count source' :=
  { ha with inside := fun j hj => (ha.inside j hj).trans (hsame j hj) }

/-- What is read arrives, also where the destination overlaps it. -/
lemma Heap.Sound.assigned_moveBytes (hs : h.Sound) (hb : h.Holds b) (hc : h.Holds c)
    {dest start count : UInt64} (hsource : start.toNat + count.toNat ≤ c.length.toNat)
    (hdest : dest.toNat + count.toNat ≤ b.length.toNat) :
    h.Assigned (h.moveBytes ⟨b.handle, dest⟩ ⟨c.handle, start⟩ count) b.handle dest.toNat
      count.toNat fun j => (h.cell c.handle).bytes[start.toNat + j]? := by
  have hlength : (h.read ⟨c.handle, start⟩ count).length = count.toNat := by
    have hbytes := hs.length_cell hc
    simp only [read, Region.read, List.length_take, List.length_drop]
    omega
  have hwrite : h.Assigned (h.moveBytes ⟨b.handle, dest⟩ ⟨c.handle, start⟩ count) b.handle
      dest.toNat _ ((h.read ⟨c.handle, start⟩ count)[·]?) := hs.assigned_write hb (by omega)
  rw [hlength] at hwrite
  refine hwrite.congr fun j hj => ?_
  rw [read, Region.read, List.getElem?_take_of_lt hj, List.getElem?_drop]

/-! ## The ways to copy -/

lemma Heap.Sound.copyFrom_of_fits (hs : h.Sound) (hb : h.Holds b) {offset : UInt64} {new : Bytes}
    (hle : offset.toNat + new.length ≤ b.length.toNat) :
    h.copyFrom b offset new = .ok (h.write ⟨b.handle, offset⟩ new) := by
  obtain ⟨stop, hrange⟩ := Block.range_of_fits ((hs.fits_ofLength_iff hb offset new).2 hle)
  rw [copyFrom, hrange]
  rfl

lemma Heap.Sound.copyFrom_of_not_fits (hs : h.Sound) (hb : h.Holds b) {offset : UInt64}
    {new : Bytes} (hnot : ¬offset.toNat + new.length ≤ b.length.toNat) :
    h.copyFrom b offset new =
      .error (.indexOutOfBounds offset (Word.ofLength new) b.length) := by
  rw [← hs.fits_ofLength_iff hb] at hnot
  rw [copyFrom, Block.range_of_not_fits hnot]
  rfl

lemma Heap.moveWithin_of_admits {start stop dest : UInt64} (hadmits : b.Admits start stop dest) :
    h.moveWithin b start stop dest =
      .ok (h.moveBytes ⟨b.handle, dest⟩ ⟨b.handle, start⟩ (stop - start)) := by
  obtain ⟨hle, hsource, hdest⟩ := hadmits
  have hcount : (stop - start).toNat = stop.toNat - start.toNat :=
    UInt64.toNat_sub_of_le _ _ (UInt64.le_iff_toNat_le.2 hle)
  obtain ⟨_, hstart⟩ : ∃ last, b.range start (stop - start) = .ok ⟨start, last⟩ :=
    Block.range_of_fits (by omega)
  obtain ⟨_, harrive⟩ : ∃ last, b.range dest (stop - start) = .ok ⟨dest, last⟩ :=
    Block.range_of_fits (by omega)
  rw [moveWithin, if_neg (by rw [UInt64.lt_iff_toNat_lt]; omega), hstart, harrive]
  rfl

lemma Heap.moveWithin_of_not_admits {start stop dest : UInt64}
    (hnot : ¬b.Admits start stop dest) :
    h.moveWithin b start stop dest = .error (b.moveFault start stop dest) := by
  rw [moveWithin, Block.moveFault]
  split
  · rfl
  · next horder =>
    rw [UInt64.lt_iff_toNat_lt, Nat.not_lt] at horder
    have hcount : (stop - start).toNat = stop.toNat - start.toNat :=
      UInt64.toNat_sub_of_le _ _ (UInt64.le_iff_toNat_le.2 horder)
    split
    · next hlong =>
      rw [UInt64.lt_iff_toNat_lt] at hlong
      rw [Block.range_of_not_fits (by omega)]
      rfl
    · next hshort =>
      rw [UInt64.lt_iff_toNat_lt, Nat.not_lt] at hshort
      obtain ⟨_, hstart⟩ : ∃ last, b.range start (stop - start) = .ok ⟨start, last⟩ :=
        Block.range_of_fits (by omega)
      have hdest : ¬dest.toNat + (stop - start).toNat ≤ b.length.toNat := by
        rw [hcount]
        exact fun hle => hnot ⟨horder, hshort, hle⟩
      rw [hstart, Block.range_of_not_fits hdest]
      rfl

/-- Without an overlap no byte is overwritten before its turn comes. -/
lemma Heap.copyBytes_of_disjoint {dest source : Location} {count : UInt64}
    (hdisjoint : Location.Disjoint count.toNat dest source) :
    h.copyBytes dest source count = h.moveBytes dest source count := by
  have hread : h.readForward dest source count = h.read source count := by
    refine if_neg ?_
    rintro ⟨hsame, hpos, hlt⟩
    exact hdisjoint hsame 0 (by omega) (dest.offset.toNat - source.offset.toNat) hlt (by omega)
  rw [copyBytes, hread, moveBytes]

/-- Copying within a block from one range to another is moving its bytes there. -/
lemma Heap.moveWithin_eq_moveBytes {start count dest : UInt64}
    (hsource : start.toNat + count.toNat ≤ b.length.toNat)
    (hdest : dest.toNat + count.toNat ≤ b.length.toNat) :
    h.moveWithin b start (start + count) dest =
      .ok (h.moveBytes ⟨b.handle, dest⟩ ⟨b.handle, start⟩ count) := by
  have hlt := b.length.toNat_lt
  have hstop : (start + count).toNat = start.toNat + count.toNat := by
    rw [UInt64.toNat_add, Nat.mod_eq_of_lt (by omega)]
  have hadmits : b.Admits start (start + count) dest := by
    refine ⟨?_, ?_, ?_⟩ <;> omega
  have hcount : start + count - start = count := by
    rw [UInt64.add_comm, UInt64.add_sub_cancel]
  rw [moveWithin_of_admits hadmits, hcount]

/-- Copying out of one block into another is moving the bytes. -/
lemma Heap.Sound.copyFrom_eq_moveBytes (hs : h.Sound) (hb : h.Holds b)
    {start count dest : UInt64} {x : Handle}
    (hdest : dest.toNat + count.toNat ≤ b.length.toNat) :
    h.copyFrom b dest (h.read ⟨x, start⟩ count) =
      .ok (h.moveBytes ⟨b.handle, dest⟩ ⟨x, start⟩ count) := by
  have hread : (h.read ⟨x, start⟩ count).length ≤ count.toNat := Region.length_read_le _ _ _
  exact hs.copyFrom_of_fits hb (by omega)

/-! ## What an owner is answered -/

variable {s : Session} {id : Nat}

lemma Session.Sound.copyFrom_assigns (hs : s.Sound) (howned : s.owned? id = some b)
    (offset : UInt64) (new : Bytes) :
    if offset.toNat + new.length ≤ b.length.toNat then
      ∃ heap, s.step (.copyFrom id offset new) = s.change b heap ∧
        s.heap.Assigned heap b.handle offset.toNat new.length (new[·]?)
    else s.step (.copyFrom id offset new) =
      (s, .fault (.indexOutOfBounds offset (Word.ofLength new) b.length)) := by
  have hb := hs.owned howned
  have hstep : s.step (.copyFrom id offset new) =
      s.changeResult b (s.heap.copyFrom b offset new) := by
    rw [Session.step, Session.withOwned, howned]
  rw [hstep]
  split
  · next hle =>
    rw [hs.heap.copyFrom_of_fits hb hle]
    exact ⟨_, rfl, hs.heap.assigned_write hb hle⟩
  · next hnot =>
    rw [hs.heap.copyFrom_of_not_fits hb hnot]
    rfl

lemma Session.Sound.moveWithin_assigns (hs : s.Sound) (howned : s.owned? id = some b)
    (start stop dest : UInt64) :
    if b.Admits start stop dest then
      ∃ heap, s.step (.moveWithin id start stop dest) = s.change b heap ∧
        s.heap.Assigned heap b.handle dest.toNat (stop.toNat - start.toNat)
          fun j => (s.heap.cell b.handle).bytes[start.toNat + j]?
    else s.step (.moveWithin id start stop dest) = (s, .fault (b.moveFault start stop dest)) := by
  have hb := hs.owned howned
  have hstep : s.step (.moveWithin id start stop dest) =
      s.changeResult b (s.heap.moveWithin b start stop dest) := by
    rw [Session.step, Session.withOwned, howned]
  rw [hstep]
  split
  · next hadmits =>
    obtain ⟨horder, hsource, hdest⟩ := hadmits
    have hcount : (stop - start).toNat = stop.toNat - start.toNat :=
      UInt64.toNat_sub_of_le _ _ (UInt64.le_iff_toNat_le.2 horder)
    rw [Heap.moveWithin_of_admits ⟨horder, hsource, hdest⟩, ← hcount]
    exact ⟨_, rfl, hs.heap.assigned_moveBytes hb hb (by omega) (by omega)⟩
  · next hnot =>
    rw [Heap.moveWithin_of_not_admits hnot]
    rfl

/-- Copies are simultaneous assignments, and those that fail change nothing.  A copy into a block
and a move within one are carried out exactly if their ranges lie inside the block, where sums of
offsets and lengths are exact.  Then the destination has what the source had before, also where the
two overlap, and everything else is as before; if not, the error says that the range is out of
bounds, and nothing has changed.  Raw copies between places inside blocks do the same as the checked
ones; the one that goes forward byte by byte does so wherever the two places do not overlap. -/
theorem copies_assign {s : Session} (hs : s.Sound) :
    (∀ (id : Nat) (b : Block) (offset : UInt64) (new : Bytes), s.owned? id = some b →
      if offset.toNat + new.length ≤ b.length.toNat then
        ∃ heap, s.step (.copyFrom id offset new) = s.change b heap ∧
          s.heap.Assigned heap b.handle offset.toNat new.length (new[·]?)
      else s.step (.copyFrom id offset new) =
        (s, .fault (.indexOutOfBounds offset (Word.ofLength new) b.length))) ∧
    (∀ (id : Nat) (b : Block) (start stop dest : UInt64), s.owned? id = some b →
      if b.Admits start stop dest then
        ∃ heap, s.step (.moveWithin id start stop dest) = s.change b heap ∧
          s.heap.Assigned heap b.handle dest.toNat (stop.toNat - start.toNat)
            fun j => (s.heap.cell b.handle).bytes[start.toNat + j]?
      else s.step (.moveWithin id start stop dest) = (s, .fault (b.moveFault start stop dest))) ∧
    (∀ (b c : Block) (dest start count : UInt64), s.heap.Holds b → s.heap.Holds c →
      start.toNat + count.toNat ≤ c.length.toNat → dest.toNat + count.toNat ≤ b.length.toNat →
      let moved := s.heap.moveBytes ⟨b.handle, dest⟩ ⟨c.handle, start⟩ count
      (s.heap.Assigned moved b.handle dest.toNat count.toNat
          fun j => (s.heap.cell c.handle).bytes[start.toNat + j]?) ∧
        s.heap.copyFrom b dest (s.heap.read ⟨c.handle, start⟩ count) = .ok moved ∧
        (b = c → s.heap.moveWithin b start (start + count) dest = .ok moved)) ∧
    ∀ (dest source : Location) (count : UInt64), Location.Disjoint count.toNat dest source →
      s.heap.copyBytes dest source count = s.heap.moveBytes dest source count := by
  refine ⟨fun _ _ offset new howned => hs.copyFrom_assigns howned offset new,
    fun _ _ start stop dest howned => hs.moveWithin_assigns howned start stop dest, ?_,
    fun _ _ _ => Heap.copyBytes_of_disjoint⟩
  intro b c dest start count hb hc hsource hdest moved
  refine ⟨hs.heap.assigned_moveBytes hb hc hsource hdest,
    hs.heap.copyFrom_eq_moveBytes hb hdest, ?_⟩
  rintro rfl
  exact Heap.moveWithin_eq_moveBytes hsource hdest

/-- Four bytes of six are moved two places on, over their own second half; three places on they
would not fit. -/
theorem copies_assign_overlapping :
    let s := ((Session.start standardCapacity).run [.ofBytes 0 [1, 2, 3, 4, 5, 6]]).1
    let b : Block := ⟨⟨0⟩, 6⟩
    (∃ heap, s.step (.moveWithin 0 0 4 2) = s.change b heap ∧
      ∀ j < 4, (heap.cell ⟨0⟩).bytes[2 + j]? = [(1 : UInt8), 2, 3, 4][j]?) ∧
    s.step (.moveWithin 0 0 4 3) = (s, .fault (.indexOutOfBounds 3 4 6)) := by
  intro s b
  have hs : s.Sound := (Session.sound_start standardCapacity).run _
  have hb : s.owned? 0 = some b := by decide +kernel
  obtain ⟨-, hmove, -⟩ := copies_assign hs
  constructor
  · have hfits := hmove 0 b 0 4 2 hb
    rw [if_pos (by decide)] at hfits
    obtain ⟨heap, hstep, hassigned⟩ := hfits
    refine ⟨heap, hstep, fun j hj => (hassigned.inside j hj).trans ?_⟩
    have hsource : (s.heap.cell b.handle).bytes = [1, 2, 3, 4, 5, 6] := by decide +kernel
    have hfirst : ∀ j < 4, ([1, 2, 3, 4, 5, 6] : Bytes)[0 + j]? = [(1 : UInt8), 2, 3, 4][j]? := by
      decide
    rw [hsource]
    exact hfirst j hj
  · have hfails := hmove 0 b 0 4 3 hb
    rw [if_neg (by decide)] at hfails
    exact hfails

end RuntimeSupport.Memory

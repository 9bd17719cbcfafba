import RuntimeSupport.Memory.Session
import RuntimeSupport.Proofs.Memory.Writing

/-!
# What a step does

There are some twenty kinds of steps, most of which may be refused or fail, but only seven things
that can happen to a session.  `Effect` lists them, each with the block it happens to and with what
a script can tell of it from the answer (`Change`).  The main statement is `step_effect`: every step
of a sound session has one of these effects.  Whatever holds of all steps is proved from it, by one
case for each effect.
-/

namespace RuntimeSupport.Memory

/-! ## Sound sessions -/

/-- The handle of the block that a slot stands for. -/
def Slot.handle : Slot → Handle
  | .owned b => b.handle
  | .raw x => x

/-- What a slot knows about its block is true of the cell. -/
def Slot.Fits (c : Cell) : Slot → Prop
  | .owned b => c.length = b.length
  | .raw _ => True

/-- A session whose slots stand for blocks in use, no two of them for the same one. -/
structure Session.Sound (s : Session) : Prop where
  heap : s.heap.Sound
  holds : ∀ {id t}, s.slots.get? id = some t → ∃ c, s.heap.cell? t.handle = some c ∧ t.Fits c
  apart : ∀ {i j t u}, s.slots.get? i = some t → s.slots.get? j = some u →
    t.handle = u.handle → i = j

lemma Session.owned?_eq_some {s : Session} {id : Nat} {b : Block} :
    s.owned? id = some b ↔ s.slots.get? id = some (.owned b) := by
  unfold Session.owned?
  rcases s.slots.get? id with _ | ⟨c⟩ | ⟨x⟩
  · simp
  · simp
  · simp

lemma Session.Sound.owned {s : Session} (hs : s.Sound) {id : Nat} {b : Block}
    (hb : s.owned? id = some b) : s.heap.Holds b :=
  hs.holds (Session.owned?_eq_some.1 hb)

/-! ## Steps and their answers -/

/-- The number that a step is addressed to.  A raw copy is addressed to its destination. -/
def Step.target : Step → Option Nat
  | .inspect | .reclaimNull => none
  | .allocate id _ _ | .zeroed id _ | .ofBytes id _ | .ofRaw id | .reallocate id _ | .free id
  | .intoRaw id | .read id | .peek id _ _ | .poke id _ _ | .copyFrom id _ _
  | .moveWithin id _ _ _ | .element id _ _ | .elementCount id _ | .writeElement id _ _ _
  | .viewOffset id _ _ | .viewCount id _ => some id
  | .rawCopy dest _ _ _ _ | .rawMove dest _ _ _ _ => some dest

/-- What has become of a block. -/
inductive Change
  /-- Nothing but that its bytes may have changed. -/
  | none
  /-- A new block of the given length has been handed out. -/
  | granted (id : Nat) (length : UInt64)
  /-- A block has got another length. -/
  | resized (id : Nat) (length : UInt64)
  /-- A block has been given back. -/
  | released (id : Nat)
  /-- A block has become a raw pointer. -/
  | surrendered (id : Nat)
  /-- A raw pointer has become a block of the given length. -/
  | reclaimed (id : Nat) (length : UInt64)
  deriving DecidableEq, Repr

/-- What a step and its answer tell.  Asking for a block succeeds if a block is answered; a failed
change of length gives the block back. -/
def Step.change : Step → Answer → Change
  | .allocate id _ _, .block length _ | .zeroed id _, .block length _
  | .ofBytes id _, .block length _ => .granted id length
  | .reallocate id _, .block length _ => .resized id length
  | .reallocate id _, .fault _ => .released id
  | .free id, .done => .released id
  | .intoRaw id, .done => .surrendered id
  | .ofRaw id, .block length _ => .reclaimed id length
  | _, _ => .none

lemma Step.change_refused (p : Step) (r : Refusal) : p.change (.refused r) = .none := by
  cases p <;> rfl

/-! ## Effects -/

/-- The heap after a cell has been handed out as a new block. -/
def Heap.grant (h : Heap) (c : Cell) : Heap := (h.insert c).2.record (.allocated c.length)

/-- The block that is handed out next, with the given length. -/
def Heap.nextBlock (h : Heap) (length : UInt64) : Block := ⟨⟨h.fresh⟩, length⟩

/-- The heap after a block has moved to a cell of its new length. -/
def Heap.move (h : Heap) (b : Block) (length : UInt64) : Heap :=
  ((h.erase b.handle).insert ((h.cell b.handle).resize length)).2.record
    (.reallocated b.length length)

/-- The heap after a block has been given back, if there is one to give back. -/
def Heap.release (h : Heap) : Option Block → Heap
  | some old => h.free old
  | none => h

lemma Session.install_eq (s : Session) (id : Nat) (b : Block) (heap : Heap) :
    (s.install id b heap).1 = ⟨heap.release (s.owned? id), s.slots.set id (.owned b)⟩ := rfl

/-- What can happen to a session: the number it happens to, what can be told of it, and the session
afterwards. -/
inductive Effect (s : Session) : Option Nat → Change → Session → Prop
  /-- Nothing happens. -/
  | kept {target : Option Nat} : Effect s target .none s
  /-- A block gets other bytes. -/
  | written {id : Nat} {b : Block} {heap : Heap} (hb : s.owned? id = some b)
      (hheap : s.heap.Rewrites b heap) : Effect s (some id) .none { s with heap }
  /-- A new block is handed out, and the one that it replaces is given back. -/
  | granted {id : Nat} {c : Cell} (hroom : s.heap.Grants c.length) (hc : c.Sound) :
      Effect s (some id) (.granted id c.length)
        ⟨(s.heap.grant c).release (s.owned? id),
          s.slots.set id (.owned (s.heap.nextBlock c.length))⟩
  /-- A block moves and gets another length. -/
  | resized {id : Nat} {b : Block} {length : UInt64} (hb : s.owned? id = some b)
      (hroom : (s.heap.erase b.handle).Grants length) :
      Effect s (some id) (.resized id length)
        ⟨s.heap.move b length, s.slots.set id (.owned (s.heap.nextBlock length))⟩
  /-- A block is given back. -/
  | released {id : Nat} {b : Block} (hb : s.owned? id = some b) :
      Effect s (some id) (.released id) ⟨s.heap.free b, s.slots.erase id⟩
  /-- A block loses its owner and is known by its handle only. -/
  | surrendered {id : Nat} {b : Block} (hb : s.owned? id = some b) :
      Effect s (some id) (.surrendered id) { s with slots := s.slots.set id (.raw b.handle) }
  /-- A block that is known by its handle gets an owner. -/
  | reclaimed {id : Nat} {x : Handle} (hx : s.slots.get? id = some (.raw x)) :
      Effect s (some id) (.reclaimed id (s.heap.cell x).length)
        { s with slots := s.slots.set id (.owned (s.heap.ofRaw x)) }

/-- What a step may result in, the effect being the one that its answer tells. -/
def Performs (s : Session) (p : Step) (r : Session × Answer) : Prop :=
  Effect s p.target (p.change r.2) r.1

section

variable {s : Session} {p : Step} {id : Nat} {b : Block}

lemma performs_keep {a : Answer} (h : p.change a = .none) : Performs s p (s, a) := by
  unfold Performs
  rw [h]
  exact .kept

lemma performs_withOwned {act : Block → Session × Answer}
    (h : ∀ b, s.owned? id = some b → Performs s p (act b)) : Performs s p (s.withOwned id act) := by
  unfold Session.withOwned
  cases hb : s.owned? id with
  | none => exact performs_keep (p.change_refused .noBlock)
  | some b => exact h b hb

/-! ### Blocks that are asked for -/

/-- What has been asked for is a new block or a fault. -/
def Heap.Supplies (h : Heap) (r : Except Fault (Block × Heap)) : Prop :=
  ∀ b h', r = .ok (b, h') → ∃ c : Cell, h.Grants c.length ∧ c.Sound ∧
    b = h.nextBlock c.length ∧ h' = h.grant c

lemma Heap.zeroed_eq_ok {h h' : Heap} {length : UInt64} (hb : h.zeroed length = .ok (b, h')) :
    h.Grants length ∧ b = h.nextBlock length ∧ h' = h.grant (.zeroed length) := by
  unfold Heap.zeroed at hb
  split at hb
  · next hroom =>
    obtain ⟨rfl, rfl⟩ : _ = b ∧ _ = h' := by simpa using hb
    exact ⟨hroom, rfl, rfl⟩
  · simp at hb

lemma Heap.supplies_zeroed (h : Heap) (length : UInt64) : h.Supplies (h.zeroed length) := by
  intro b h' hb
  obtain ⟨hroom, rfl, rfl⟩ := Heap.zeroed_eq_ok hb
  exact ⟨.zeroed length, hroom, Cell.sound_zeroed hroom.1, rfl, rfl⟩

lemma Heap.supplies_allocate (h : Heap) (count elemSize : UInt64) :
    h.Supplies (h.allocate count elemSize) := by
  intro b h' hb
  obtain ⟨length, -, hz⟩ := bind_eq_ok.1 hb
  exact h.supplies_zeroed length b h' hz

/-- The zeros are overwritten before anyone sees them. -/
lemma Heap.write_grant_zeroed (h : Heap) {bs : Bytes} {length : UInt64}
    (hlen : bs.length = length.toNat) :
    (h.grant (.zeroed length)).write ⟨⟨h.fresh⟩, 0⟩ bs = h.grant ⟨length, bs⟩ := by
  have hcell : (h.grant (.zeroed length)).cell? ⟨h.fresh⟩ = some (.zeroed length) := by
    simp [Heap.grant]
  have hbytes : Region.write (Cell.zeroed length).bytes 0 bs = bs := by
    simp [Region.write, Cell.zeroed, hlen]
  unfold Heap.write
  simp only
  rw [cell_eq hcell, setBytes_eq hcell]
  show { h.grant (.zeroed length) with
    cells := (h.cells.set ⟨h.fresh⟩ (.zeroed length)).set ⟨h.fresh⟩
      ⟨length, Region.write (Cell.zeroed length).bytes 0 bs⟩ } = h.grant ⟨length, bs⟩
  rw [hbytes, Table.set_set]
  rfl

lemma Heap.supplies_ofBytes (h : Heap) (bs : Bytes) : h.Supplies (h.ofBytes bs) := by
  intro b h' hb
  obtain ⟨⟨b₁, h₁⟩, hz, hw⟩ := bind_eq_ok.1 hb
  obtain ⟨hroom, rfl, rfl⟩ := Heap.zeroed_eq_ok hz
  obtain ⟨rfl, rfl⟩ : _ = b ∧ _ = h' := by simpa using pure_eq_ok.1 hw
  -- room is never granted for the largest word, which stands for all lengths past it
  have hlen : bs.length = (Word.ofLength bs).toNat := by
    have hle := hroom.1
    rw [footprint, largestFootprint, Word.toNat_ofLength] at hle
    rw [Word.toNat_ofLength]
    omega
  exact ⟨⟨Word.ofLength bs, bs⟩, hroom, ⟨hlen, hroom.1⟩, rfl, h.write_grant_zeroed hlen⟩

lemma performs_installResult {r : Except Fault (Block × Heap)} (h : s.heap.Supplies r)
    (htarget : p.target = some id) (hblock : ∀ n bs, p.change (.block n bs) = .granted id n)
    (hfault : ∀ f, p.change (.fault f) = .none) : Performs s p (s.installResult id r) := by
  unfold Performs Session.installResult
  rw [htarget]
  rcases r with f | ⟨b, h'⟩
  · simp only
    rw [hfault f]
    exact .kept
  · obtain ⟨c, hroom, hc, rfl, rfl⟩ := h b h' rfl
    show Effect s (some id) (p.change (.block _ _)) (s.install id _ _).1
    rw [hblock, Session.install_eq]
    exact .granted hroom hc

/-! ### Blocks that are written to -/

lemma performs_rewrite {heap : Heap} {a : Answer} (htarget : p.target = some id)
    (hb : s.owned? id = some b) (h : s.heap.Rewrites b heap) (ha : p.change a = .none) :
    Performs s p ({ s with heap }, a) := by
  unfold Performs
  rw [htarget, ha]
  exact .written hb h

lemma performs_changeResult {r : Except Fault Heap} (htarget : p.target = some id)
    (hb : s.owned? id = some b) (h : ∀ h', r = .ok h' → s.heap.Rewrites b h')
    (hblock : ∀ n bs, p.change (.block n bs) = .none) (hfault : ∀ f, p.change (.fault f) = .none) :
    Performs s p (s.changeResult b r) := by
  cases r with
  | error f => exact performs_keep (hfault f)
  | ok h' => exact performs_rewrite htarget hb (h h' rfl) (hblock _ _)

lemma performs_answer {α : Type} {tell : α → Answer} {r : Except Fault α}
    (htell : ∀ a, p.change (tell a) = .none) (hfault : ∀ f, p.change (.fault f) = .none) :
    Performs s p (s.answer tell r) := by
  cases r with
  | error f => exact performs_keep (hfault f)
  | ok a => exact performs_keep (htell a)

lemma performs_rawTransfer (hs : s.Sound) {disjoint : Bool} {dest source : Nat}
    {transfer : Heap → Location → Location → UInt64 → Heap} (ht : Transfers transfer)
    {offset sourceOffset count : UInt64} (htarget : p.target = some dest)
    (hdone : ∀ n bs, p.change (.destination n bs) = .none) :
    Performs s p (s.rawTransfer disjoint transfer dest source offset sourceOffset count) := by
  -- two of the refusals come before the destination is looked up, one after it
  unfold Session.rawTransfer
  split
  · exact performs_keep (p.change_refused _)
  simp only
  split
  · exact performs_keep (p.change_refused _)
  refine performs_withOwned ?_
  intro b hb
  split
  · next src _ _ hinside =>
    obtain ⟨new, hnew, htransfer⟩ :=
      ht s.heap ⟨b.handle, offset⟩ ⟨src.handle, sourceOffset⟩ count
    have hle : offset.toNat + count.toNat ≤ b.length.toNat := of_decide_eq_true hinside
    refine performs_rewrite htarget hb ?_ (hdone _ _)
    rw [htransfer]
    exact hs.heap.rewrites_write (hs.owned hb) (by omega)
  · exact performs_keep (p.change_refused _)

/-! ### Blocks that change hands or length -/

lemma performs_reallocate {length : UInt64} (hb : s.owned? id = some b) :
    Performs s (.reallocate id length) (s.reallocate id b length) := by
  unfold Session.reallocate Heap.reallocate
  simp only
  -- the block that makes way may leave the room that its successor needs
  by_cases hroom : (s.heap.erase b.handle).Grants length
  · rw [if_pos hroom]
    exact Effect.resized hb hroom
  · rw [if_neg hroom]
    exact Effect.released hb

end

/-- Every step of a sound session has one of the effects, the one that its answer tells. -/
theorem step_effect {s : Session} (hs : s.Sound) (p : Step) :
    Effect s p.target (p.change (s.step p).2) (s.step p).1 := by
  show Performs s p (s.step p)
  cases p with
  | inspect => exact performs_keep rfl
  | reclaimNull => exact performs_keep rfl
  | allocate id count elemSize =>
    exact performs_installResult (s.heap.supplies_allocate count elemSize) rfl (fun _ _ => rfl)
      fun _ => rfl
  | zeroed id length =>
    exact performs_installResult (s.heap.supplies_zeroed length) rfl (fun _ _ => rfl) fun _ => rfl
  | ofBytes id bs =>
    exact performs_installResult (s.heap.supplies_ofBytes bs) rfl (fun _ _ => rfl) fun _ => rfl
  | ofRaw id =>
    unfold Session.step
    simp only
    split
    · next x hx => exact Effect.reclaimed hx
    · exact performs_keep rfl
  | reallocate id length => exact performs_withOwned fun b hb => performs_reallocate hb
  | free id => exact performs_withOwned fun b hb => Effect.released hb
  | intoRaw id => exact performs_withOwned fun b hb => Effect.surrendered hb
  | read id => exact performs_withOwned fun b hb => performs_keep rfl
  | peek id start stop =>
    refine performs_withOwned ?_
    intro b hb
    split
    · exact performs_keep rfl
    · exact performs_keep rfl
  | poke id offset bs =>
    refine performs_withOwned ?_
    intro b hb
    split
    · next hinside =>
      have hle : offset.toNat + bs.length ≤ b.length.toNat := of_decide_eq_true hinside
      exact performs_rewrite rfl hb (hs.heap.rewrites_write (hs.owned hb) hle) rfl
    · exact performs_keep rfl
  | copyFrom id offset bs =>
    refine performs_withOwned ?_
    intro b hb
    exact performs_changeResult rfl hb (fun _ => hs.heap.rewrites_copyFrom (hs.owned hb))
      (fun _ _ => rfl) fun _ => rfl
  | moveWithin id start stop dest =>
    refine performs_withOwned ?_
    intro b hb
    exact performs_changeResult rfl hb (fun _ => hs.heap.rewrites_moveWithin (hs.owned hb))
      (fun _ _ => rfl) fun _ => rfl
  | element id index elemSize =>
    exact performs_withOwned fun b hb => performs_answer (fun _ => rfl) fun _ => rfl
  | elementCount id elemSize =>
    exact performs_withOwned fun b hb => performs_answer (fun _ => rfl) fun _ => rfl
  | writeElement id index elemSize bs =>
    refine performs_withOwned ?_
    intro b hb
    exact performs_changeResult rfl hb (fun _ => hs.heap.rewrites_writeElement (hs.owned hb))
      (fun _ _ => rfl) fun _ => rfl
  | viewOffset id index elemSize =>
    exact performs_withOwned fun b hb => performs_answer (fun _ => rfl) fun _ => rfl
  | viewCount id elemSize =>
    exact performs_withOwned fun b hb => performs_answer (fun _ => rfl) fun _ => rfl
  | rawCopy dest source offset sourceOffset count =>
    exact performs_rawTransfer hs transfers_copyBytes rfl fun _ _ => rfl
  | rawMove dest source offset sourceOffset count =>
    exact performs_rawTransfer hs transfers_moveBytes rfl fun _ _ => rfl

end RuntimeSupport.Memory

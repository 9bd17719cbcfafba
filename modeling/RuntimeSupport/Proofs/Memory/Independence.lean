import RuntimeSupport.Proofs.Memory.Soundness

/-!
# Blocks do not disturb each other

In every state that a script can reach, a block is an array of bytes of its own.  Its length is the
same wherever it is written down; a step that is addressed to another number changes nothing of it;
and while it is a raw pointer it keeps what its owner left there.

The main statement is `run_independent`.
-/

namespace RuntimeSupport.Memory

/-- The blocks of a session are independent arrays of bytes. -/
structure Session.Independent (s : Session) : Prop where
  /-- The header and the owner of a block tell the same length. -/
  owner : ∀ {id b}, s.owned? id = some b →
    ∃ c, s.heap.cell? b.handle = some c ∧ c.length = b.length ∧ c.bytes.length = b.length.toNat
  /-- A raw pointer leads to a block in use. -/
  pointer : ∀ {id x}, s.slots.get? id = some (.raw x) → ∃ c, s.heap.cell? x = some c
  /-- A header tells the number of bytes behind it. -/
  header : ∀ {x c}, s.heap.cell? x = some c → c.bytes.length = c.length.toNat
  /-- A step changes no cell but that of the block it is addressed to. -/
  cells : ∀ {x c} (p : Step), s.heap.cell? x = some c →
    (∀ id b, p.target = some id → s.owned? id = some b → x ≠ b.handle) →
    (s.step p).1.heap.cell? x = some c
  /-- A step changes nothing of the block that another number stands for. -/
  others : ∀ {j t} (p : Step), s.slots.get? j = some t → p.target ≠ some j →
    (s.step p).1.slots.get? j = some t ∧
      (s.step p).1.heap.cell? t.handle = s.heap.cell? t.handle
  /-- A block that becomes a raw pointer and is reclaimed later, whatever has happened to other
  blocks in between, is the same one; neither of the two steps is counted. -/
  roundTrip : ∀ {id b} (steps : List Step), s.owned? id = some b →
    (∀ p ∈ steps, p.target ≠ some id) →
    let s₁ := (s.step (.intoRaw id)).1
    let s₂ := (s₁.run steps).1
    let r := s₂.step (.ofRaw id)
    r.2 = s.display b ∧ r.1.owned? id = some b ∧
      r.1.heap.cell? b.handle = s.heap.cell? b.handle ∧
      s₁.heap.counters = s.heap.counters ∧ r.1.heap.counters = s₂.heap.counters

variable {s : Session} {id : Nat}

lemma Session.Sound.others_step (hs : s.Sound) {j : Nat} {t : Slot} (p : Step)
    (ht : s.slots.get? j = some t) (hj : p.target ≠ some j) :
    (s.step p).1.slots.get? j = some t ∧
      (s.step p).1.heap.cell? t.handle = s.heap.cell? t.handle := by
  have heffect := step_effect hs p
  refine ⟨?_, heffect.cell?_other hs ht hj⟩
  rw [heffect.slot_eq hj]
  exact ht

/-- What holds of one step holds of a whole script. -/
lemma Session.Sound.others_run (hs : s.Sound) {j : Nat} {t : Slot} {steps : List Step}
    (ht : s.slots.get? j = some t) (hj : ∀ p ∈ steps, p.target ≠ some j) :
    (s.run steps).1.slots.get? j = some t ∧
      (s.run steps).1.heap.cell? t.handle = s.heap.cell? t.handle := by
  induction steps generalizing s with
  | nil => exact ⟨ht, rfl⟩
  | cons p rest ih =>
    rw [List.forall_mem_cons] at hj
    obtain ⟨hslot, hcell⟩ := hs.others_step p ht hj.1
    obtain ⟨hslot', hcell'⟩ := ih (hs.step p) hslot hj.2
    exact ⟨hslot', hcell'.trans hcell⟩

lemma Session.step_intoRaw {b : Block} (hb : s.owned? id = some b) :
    (s.step (.intoRaw id)).1 = { s with slots := s.slots.set id (.raw b.handle) } := by
  rw [Session.step, Session.withOwned, hb]

lemma Session.step_ofRaw {x : Handle} (hx : s.slots.get? id = some (.raw x)) :
    s.step (.ofRaw id) =
      ({ s with slots := s.slots.set id (.owned (s.heap.ofRaw x)) },
        .block (s.heap.ofRaw x).length (s.heap.span (s.heap.ofRaw x)).bytes) := by
  rw [Session.step, hx]
  rfl

/-- Whoever knows the handle of a block can be its owner again. -/
lemma Heap.ofRaw_handle {h : Heap} {b : Block} (hb : h.Holds b) : h.ofRaw b.handle = b := by
  obtain ⟨c, hc, hlen⟩ := hb
  rw [ofRaw, cell_eq hc, hlen]

lemma Session.Sound.roundTrip (hs : s.Sound) {b : Block} {steps : List Step}
    (hb : s.owned? id = some b) (hsteps : ∀ p ∈ steps, p.target ≠ some id) :
    let s₁ := (s.step (.intoRaw id)).1
    let s₂ := (s₁.run steps).1
    let r := s₂.step (.ofRaw id)
    r.2 = s.display b ∧ r.1.owned? id = some b ∧
      r.1.heap.cell? b.handle = s.heap.cell? b.handle ∧
      s₁.heap.counters = s.heap.counters ∧ r.1.heap.counters = s₂.heap.counters := by
  intro s₁ s₂ r
  have hs₁ : s₁.Sound := hs.step (.intoRaw id)
  have hstep : s₁ = { s with slots := s.slots.set id (.raw b.handle) } := s.step_intoRaw hb
  have hheap : s₁.heap = s.heap := by rw [hstep]
  have hslot : s₁.slots.get? id = some (.raw b.handle) := by
    rw [hstep]
    exact s.slots.get?_set_self id _
  -- in between nothing is addressed to the number of the raw pointer
  obtain ⟨hslot₂, hcell₂⟩ := hs₁.others_run hslot hsteps
  rw [hheap] at hcell₂
  -- the header that the pointer leads to is still the one that the owner left
  have hholds : s₂.heap.Holds b := by
    obtain ⟨c, hc, hlen⟩ := hs.owned hb
    exact ⟨c, hcell₂.trans hc, hlen⟩
  have hr : r = ({ s₂ with slots := s₂.slots.set id (.owned b) },
      .block b.length (s₂.heap.span b).bytes) := by
    have hofRaw := s₂.step_ofRaw hslot₂
    rw [Heap.ofRaw_handle hholds] at hofRaw
    exact hofRaw
  have hspan : s₂.heap.span b = s.heap.span b := by
    have hcell : s₂.heap.cell b.handle = s.heap.cell b.handle := by
      rw [Heap.cell, Heap.cell]
      exact congrArg (Option.getD · _) hcell₂
    rw [Heap.span, Heap.span, hcell]
  rw [hr]
  refine ⟨?_, ?_, hcell₂, ?_, rfl⟩
  · rw [hspan]
    rfl
  · exact Session.owned?_eq_some.2 (s₂.slots.get?_set_self id _)
  · rw [hheap]

/-- Soundness is all that independence needs. -/
lemma Session.Sound.independent (hs : s.Sound) : s.Independent where
  owner hb := by
    obtain ⟨c, hc, hlen⟩ := hs.owned hb
    refine ⟨c, hc, hlen, ?_⟩
    rw [← hlen]
    exact (hs.heap.cells hc).length_bytes
  pointer hx := by
    obtain ⟨c, hc, -⟩ := hs.holds hx
    exact ⟨c, hc⟩
  header hc := (hs.heap.cells hc).length_bytes
  cells p hc hother := (step_effect hs p).cell?_eq hs hc hother
  others p ht hj := hs.others_step p ht hj
  roundTrip _ hb hsteps := hs.roundTrip hb hsteps

/-- In every state that a script can reach, blocks are independent arrays of bytes. -/
theorem run_independent (capacity : Nat) (steps : List Step) :
    ((Session.start capacity).run steps).1.Independent :=
  ((Session.sound_start capacity).run steps).independent

end RuntimeSupport.Memory

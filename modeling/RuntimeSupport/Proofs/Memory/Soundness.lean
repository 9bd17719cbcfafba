import RuntimeSupport.Proofs.Memory.Effect

/-!
# What every run keeps true

An effect concerns one number and one block: the slots under other numbers stay as they are
(`Effect.slot_eq`) and so do all other cells (`Effect.cell?_eq`).  Since no two slots stand for the
same block, soundness has then to be checked for one slot only.  `Session.Sound.run` is the
induction over a script.
-/

namespace RuntimeSupport.Memory

variable {s s' : Session} {target : Option Nat} {change : Change} {id : Nat}

/-! ## What stays as it is -/

/-- Nothing but the slot that a step is addressed to changes. -/
theorem Effect.slot_eq (h : Effect s target change s') {j : Nat} (hj : target ≠ some j) :
    s'.slots.get? j = s.slots.get? j := by
  have hne : ∀ id, target = some id → j ≠ id := by
    rintro id rfl rfl
    exact hj rfl
  cases h with
  | kept => rfl
  | written => rfl
  | granted => rw [Table.get?_set, if_neg (hne _ rfl)]
  | resized => rw [Table.get?_set, if_neg (hne _ rfl)]
  | released => rw [Table.get?_erase, if_neg (hne _ rfl)]
  | surrendered => rw [Table.get?_set, if_neg (hne _ rfl)]
  | reclaimed => rw [Table.get?_set, if_neg (hne _ rfl)]

lemma Heap.cell?_grant (h : Heap) (c : Cell) (x : Handle) :
    (h.grant c).cell? x = if x = ⟨h.fresh⟩ then some c else h.cell? x :=
  h.cell?_insert c x

lemma Heap.cell?_move (h : Heap) (b : Block) (length : UInt64) (x : Handle) :
    (h.move b length).cell? x =
      if x = ⟨h.fresh⟩ then some ((h.cell b.handle).resize length)
      else if x = b.handle then none else h.cell? x := by
  unfold Heap.move
  rw [Heap.cell?_record, Heap.cell?_insert, Heap.cell?_erase]
  rfl

lemma Heap.cell?_release {h : Heap} {old : Option Block} {x : Handle}
    (hx : ∀ b, old = some b → x ≠ b.handle) : (h.release old).cell? x = h.cell? x := by
  cases old with
  | none => rfl
  | some b => rw [Heap.release, Heap.cell?_free, if_neg (hx b rfl)]

/-- A cell in use is not the next one. -/
lemma Heap.Sound.ne_fresh {h : Heap} (hs : h.Sound) {x : Handle} {c : Cell}
    (hc : h.cell? x = some c) : x ≠ ⟨h.fresh⟩ := by
  rintro rfl
  exact absurd (hs.number_lt hc) (Nat.lt_irrefl _)

/-- Nothing but the block that a step is addressed to changes. -/
theorem Effect.cell?_eq (hs : s.Sound) (h : Effect s target change s') {x : Handle} {c : Cell}
    (hx : s.heap.cell? x = some c)
    (hother : ∀ id b, target = some id → s.owned? id = some b → x ≠ b.handle) :
    s'.heap.cell? x = some c := by
  -- a cell that comes into use is a new one, so only the target could be in its way
  have hfresh := hs.heap.ne_fresh hx
  cases h with
  | kept => exact hx
  | written hb hheap =>
    obtain ⟨bs, -, rfl⟩ := hheap
    rw [← hx]
    exact Heap.cell?_setBytes_of_ne (hother _ _ rfl hb) bs
  | granted =>
    simp only
    rw [Heap.cell?_release (hother _ · rfl), Heap.cell?_grant, if_neg hfresh, hx]
  | resized hb hroom =>
    simp only
    rw [Heap.cell?_move, if_neg hfresh, if_neg (hother _ _ rfl hb), hx]
  | released hb =>
    simp only
    rw [Heap.cell?_free, if_neg (hother _ _ rfl hb), hx]
  | surrendered => exact hx
  | reclaimed => exact hx

/-- Two numbers never stand for the same block. -/
lemma Session.Sound.ne_handle (hs : s.Sound) {t : Slot} (ht : s.slots.get? id = some t) {j : Nat}
    {u : Slot} (hj : j ≠ id) (hu : s.slots.get? j = some u) : u.handle ≠ t.handle :=
  fun heq => hj (hs.apart hu ht heq)

/-- The block that another number stands for is another block, so it stays as it is. -/
theorem Effect.cell?_other (hs : s.Sound) (h : Effect s target change s') {j : Nat} {u : Slot}
    (hu : s.slots.get? j = some u) (hj : target ≠ some j) :
    s'.heap.cell? u.handle = s.heap.cell? u.handle := by
  obtain ⟨c, hc, -⟩ := hs.holds hu
  rw [hc]
  refine h.cell?_eq hs hc ?_
  rintro i b rfl hb
  refine hs.ne_handle (Session.owned?_eq_some.1 hb) ?_ hu
  rintro rfl
  exact hj rfl

/-! ## Soundness -/

lemma Heap.Sound.grant {h : Heap} (hs : h.Sound) {c : Cell} (hroom : h.Grants c.length)
    (hc : c.Sound) : (h.grant c).Sound :=
  (hs.insert hc hroom.2).record _

lemma Heap.Sound.release {h : Heap} (hs : h.Sound) (old : Option Block) :
    (h.release old).Sound := by
  cases old with
  | none => exact hs
  | some b => exact hs.free b

lemma Heap.Sound.move {h : Heap} (hs : h.Sound) {b : Block} (hb : h.Holds b) {length : UInt64}
    (hroom : (h.erase b.handle).Grants length) : (h.move b length).Sound := by
  obtain ⟨c, hc, -⟩ := hb
  have hresize : ((h.cell b.handle).resize length).Sound := by
    rw [cell_eq hc]
    exact (hs.cells hc).resize hroom.1
  exact ((hs.erase b.handle).insert hresize hroom.2).record _

lemma Effect.sound_heap (hs : s.Sound) (h : Effect s target change s') : s'.heap.Sound := by
  cases h with
  | kept => exact hs.heap
  | written hb hheap => exact hheap.sound hs.heap (hs.owned hb)
  | granted hroom hc => exact (hs.heap.grant hroom hc).release _
  | resized hb hroom => exact hs.heap.move (hs.owned hb) hroom
  | released hb => exact hs.heap.free _
  | surrendered => exact hs.heap
  | reclaimed => exact hs.heap

/-- The slots under other numbers are the same ones and still stand for blocks in use. -/
lemma Effect.other (hs : s.Sound) (h : Effect s (some id) change s') {j : Nat} (hj : j ≠ id)
    {u : Slot} (hu : s'.slots.get? j = some u) :
    s.slots.get? j = some u ∧ ∃ c, s'.heap.cell? u.handle = some c ∧ u.Fits c := by
  have hne : some id ≠ some j := fun e => hj (Option.some.inj e).symm
  rw [h.slot_eq hne] at hu
  obtain ⟨c, hc, hfits⟩ := hs.holds hu
  exact ⟨hu, c, (h.cell?_other hs hu hne).trans hc, hfits⟩

/-- After an effect only the slot of its number has to be looked at. -/
lemma Effect.sound_of_slot (hs : s.Sound) (h : Effect s (some id) change s')
    (hslot : ∀ t, s'.slots.get? id = some t → (∃ c, s'.heap.cell? t.handle = some c ∧ t.Fits c) ∧
      ∀ j u, j ≠ id → s.slots.get? j = some u → u.handle ≠ t.handle) : s'.Sound where
  heap := h.sound_heap hs
  holds {j t} ht := by
    by_cases hj : j = id
    · subst hj
      exact (hslot t ht).1
    · exact (h.other hs hj ht).2
  apart {i j t u} ht hu heq := by
    -- slots that are both old were apart before; a new one is apart from all old ones
    by_cases hi : i = id
    · subst hi
      by_cases hj : j = i
      · exact hj.symm
      · exact absurd heq.symm ((hslot t ht).2 j u hj (h.other hs hj hu).1)
    · by_cases hj : j = id
      · subst hj
        exact absurd heq ((hslot u hu).2 i t hi (h.other hs hi ht).1)
      · exact hs.apart (h.other hs hi ht).1 (h.other hs hj hu).1 heq

lemma Effect.sound_of_set (hs : s.Sound) (h : Effect s (some id) change s') {t : Slot}
    (ht : s'.slots.get? id = some t) (hcell : ∃ c, s'.heap.cell? t.handle = some c ∧ t.Fits c)
    (hne : ∀ j u, j ≠ id → s.slots.get? j = some u → u.handle ≠ t.handle) : s'.Sound := by
  refine h.sound_of_slot hs ?_
  intro t' ht'
  obtain rfl : t = t' := Option.some.inj (ht.symm.trans ht')
  exact ⟨hcell, hne⟩

/-- A new block is not one of those that the slots stand for. -/
lemma Session.Sound.ne_next (hs : s.Sound) {j : Nat} {u : Slot} (hu : s.slots.get? j = some u)
    (length : UInt64) : u.handle ≠ (s.heap.nextBlock length).handle := by
  obtain ⟨c, hc, -⟩ := hs.holds hu
  exact hs.heap.ne_fresh hc

/-- An installed block is in use, also if the one that it replaces is not any more. -/
lemma Session.Sound.cell?_granted (hs : s.Sound) (id : Nat) (c : Cell) :
    ((s.heap.grant c).release (s.owned? id)).cell? ⟨s.heap.fresh⟩ = some c := by
  have hne : ∀ old, s.owned? id = some old → ⟨s.heap.fresh⟩ ≠ old.handle := by
    intro old hb
    exact Ne.symm (hs.ne_next (Session.owned?_eq_some.1 hb) c.length)
  rw [Heap.cell?_release hne, Heap.cell?_grant, if_pos rfl]

/-- Every effect keeps a session sound. -/
theorem Effect.sound (hs : s.Sound) (h : Effect s target change s') : s'.Sound := by
  have hall := h
  cases h with
  | kept => exact hs
  | @written id b heap hb hheap =>
    have hslot := Session.owned?_eq_some.1 hb
    refine hall.sound_of_set hs hslot (hheap.holds (hs.owned hb)) ?_
    intro j u hj hu
    exact hs.ne_handle hslot hj hu
  | @granted id c hroom hc =>
    have hslot := s.slots.get?_set_self id (.owned (s.heap.nextBlock c.length))
    refine hall.sound_of_set hs hslot ⟨c, hs.cell?_granted id c, rfl⟩ ?_
    intro j u _ hu
    exact hs.ne_next hu c.length
  | @resized id b length hb hroom =>
    have hslot := s.slots.get?_set_self id (.owned (s.heap.nextBlock length))
    have hcell : (s.heap.move b length).cell? ⟨s.heap.fresh⟩ =
        some ((s.heap.cell b.handle).resize length) := by
      rw [Heap.cell?_move, if_pos rfl]
    refine hall.sound_of_set hs hslot ⟨_, hcell, rfl⟩ ?_
    intro j u _ hu
    exact hs.ne_next hu length
  | released hb =>
    -- the number stands for nothing any more
    refine hall.sound_of_slot hs ?_
    intro t ht
    rw [Table.get?_erase, if_pos rfl] at ht
    exact absurd ht (by simp)
  | @surrendered id b hb =>
    have hslot := s.slots.get?_set_self id (.raw b.handle)
    obtain ⟨c, hc, -⟩ := hs.owned hb
    refine hall.sound_of_set hs hslot ⟨c, hc, trivial⟩ ?_
    intro j u hj hu
    exact hs.ne_handle (Session.owned?_eq_some.1 hb) hj hu
  | @reclaimed id x hx =>
    have hslot := s.slots.get?_set_self id (.owned (s.heap.ofRaw x))
    obtain ⟨c, hc, -⟩ : ∃ c, s.heap.cell? x = some c ∧ Slot.Fits c (.raw x) := hs.holds hx
    have hfits : c.length = (s.heap.cell x).length := by rw [Heap.cell_eq hc]
    refine hall.sound_of_set hs hslot ⟨c, hc, hfits⟩ ?_
    intro j u hj hu
    exact hs.ne_handle hx hj hu

/-! ## Runs -/

lemma Session.sound_start (capacity : Nat) : (start capacity).Sound where
  heap := Heap.sound_empty capacity
  holds h := by simp [start] at h
  apart h := by simp [start] at h

lemma Session.Sound.step (hs : s.Sound) (p : Step) : (s.step p).1.Sound :=
  (step_effect hs p).sound hs

theorem Session.Sound.run (hs : s.Sound) (steps : List Step) : (s.run steps).1.Sound := by
  induction steps generalizing s with
  | nil => exact hs
  | cons p rest ih => exact ih (hs.step p)

end RuntimeSupport.Memory

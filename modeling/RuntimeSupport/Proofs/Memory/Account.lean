import RuntimeSupport.Proofs.Memory.Ledger
import RuntimeSupport.Proofs.Memory.Soundness

/-!
# The counters tell what has happened

However a script goes on, whether its steps succeed, fail or are refused, the counters of the heap
say after each of them what its own books say.  One step is an effect, and for each of the effects
the books and the heap move together (`Effect.agrees`), the heap records the events that the books
ask for (`Effect.counters_eq`), and these move the counters exactly (`Effect.balances`).

The main statement is `run_accounted`.
-/

namespace RuntimeSupport.Memory

/-- What a slot holds. -/
def Heap.holding (h : Heap) : Slot → Holding
  | .owned b => .owned b.length
  | .raw x => .raw (h.cell x).length

/-- The books are about the blocks of a session. -/
structure Ledger.Agrees (l : Ledger) (s : Session) : Prop where
  held : ∀ id, l.held.get? id = (s.slots.get? id).map s.heap.holding
  weigh : ∀ f, l.weigh f = s.heap.weigh f

/-- The counters say what the books say.  Those that also shrink are exact; those that only grow are
so up to wrapping, which takes as many events as there are words. -/
structure Ledger.Balances (l : Ledger) (c : Counters) : Prop where
  tally : Tally c l.lengths.length (l.lengths.map UInt64.toNat).sum
  counted : Counted c l.allocations l.reallocations l.frees
  balance : l.allocations = l.lengths.length + l.frees

/-- The updates that record a change, in order. -/
def Ledger.updates (l : Ledger) (change : Change) : List Update :=
  (l.events change).flatMap Event.updates

variable {s s' : Session} {l : Ledger} {c : Counters} {target : Option Nat} {change : Change}
  {id : Nat} {f : UInt64 → Nat}

/-! ## Blocks and books move together -/

lemma Heap.Holds.weigh_free {h : Heap} {b : Block} (hb : h.Holds b) :
    (h.free b).weigh f + f b.length = h.weigh f := by
  obtain ⟨c, hc, hlen⟩ := hb
  have herase := h.weigh_erase (f := f) hc
  rw [hlen] at herase
  exact herase

lemma Heap.Sound.weigh_move {h : Heap} (hs : h.Sound) {b : Block} (hb : h.Holds b)
    (length : UInt64) : (h.move b length).weigh f + f b.length = h.weigh f + f length := by
  have hfree := hb.weigh_free (f := f)
  have hinsert := (hs.erase b.handle).weigh_insert (f := f) ((h.cell b.handle).resize length)
  have hmove : (h.move b length).weigh f = (h.free b).weigh f + f length := hinsert
  omega

lemma Heap.weigh_release {h : Heap} {old : Option Block}
    (hold : ∀ b, old = some b → h.Holds b) :
    (h.release old).weigh f + ((old.toList.map Block.length).map f).sum = h.weigh f := by
  cases old with
  | none => rfl
  | some b => exact (hold b rfl).weigh_free

lemma Heap.counters_release (h : Heap) (old : Option Block) :
    (h.release old).counters =
      ((old.toList.map Block.length).map Event.freed).foldl Counters.record h.counters := by
  cases old with
  | none => rfl
  | some b => rfl

/-- Another block is not in the way of a new one. -/
lemma Heap.Sound.holds_grant {h : Heap} (hs : h.Sound) {b : Block} (hb : h.Holds b) (c : Cell) :
    (h.grant c).Holds b := by
  obtain ⟨d, hd, hlen⟩ := hb
  refine ⟨d, ?_, hlen⟩
  rw [Heap.cell?_grant, if_neg (hs.ne_fresh hd), hd]

lemma Ledger.Agrees.held_of_owned (ha : l.Agrees s) {b : Block} (hb : s.owned? id = some b) :
    l.held.get? id = some (.owned b.length) := by
  rw [ha.held, Session.owned?_eq_some.1 hb]
  rfl

lemma Ledger.Agrees.held_of_raw (ha : l.Agrees s) {x : Handle}
    (hx : s.slots.get? id = some (.raw x)) :
    l.held.get? id = some (.raw (s.heap.cell x).length) := by
  rw [ha.held, hx]
  rfl

lemma Ledger.Agrees.lengthOf_of_owned (ha : l.Agrees s) {b : Block} (hb : s.owned? id = some b) :
    l.lengthOf id = b.length :=
  lengthOf_of_held (ha.held_of_owned hb)

/-- The books know which block is given back when its number is used for another one. -/
lemma Ledger.Agrees.dropped_eq (ha : l.Agrees s) (id : Nat) :
    l.dropped id = (s.owned? id).toList.map Block.length := by
  rw [dropped, ha.held, Session.owned?]
  rcases s.slots.get? id with _ | ⟨b⟩ | ⟨x⟩
  · rfl
  · rfl
  · rfl

lemma Effect.weigh_agrees (hs : s.Sound) (ha : l.Agrees s) (h : Effect s target change s') :
    (l.note change).weigh f = s'.heap.weigh f := by
  have hold := ha.weigh f
  cases h with
  | kept => exact hold
  | written hb hheap =>
    obtain ⟨bs, -, rfl⟩ := hheap
    rw [Heap.weigh_setBytes]
    exact hold
  | @granted id d hroom hd =>
    have hbooks := l.weigh_granted (f := f) id d.length
    have hgrant : (s.heap.grant d).weigh f = s.heap.weigh f + f d.length :=
      hs.heap.weigh_insert d
    have hrelease := Heap.weigh_release (f := f) fun b (hb : s.owned? id = some b) =>
      hs.heap.holds_grant (hs.owned hb) d
    rw [ha.dropped_eq] at hbooks
    simp only
    omega
  | @resized id b length hb hroom =>
    have hmove := hs.heap.weigh_move (f := f) (hs.owned hb) length
    have hbooks := Ledger.weigh_resized (f := f) (ha.held_of_owned hb) length
    simp only [Holding.length] at hbooks ⊢
    omega
  | @released id b hb =>
    have hfree := (hs.owned hb).weigh_free (f := f)
    have hbooks := Ledger.weigh_released (f := f) (ha.held_of_owned hb)
    simp only [Holding.length] at hbooks ⊢
    omega
  | surrendered hb =>
    rw [Ledger.weigh_surrendered (ha.held_of_owned hb)]
    exact hold
  | @reclaimed id x hx =>
    have hbooks := Ledger.weigh_reclaimed (f := f) (ha.held_of_raw hx)
    exact hbooks.trans hold

/-- What a slot holds depends on its own cell only. -/
lemma Heap.holding_congr {h h' : Heap} {t : Slot} (hc : h'.cell? t.handle = h.cell? t.handle) :
    h'.holding t = h.holding t := by
  cases t with
  | owned b => rfl
  | raw x =>
    have hx : h'.cell? x = h.cell? x := hc
    rw [Heap.holding, Heap.holding, Heap.cell, Heap.cell, hx]

/-- The books of other numbers are not touched. -/
lemma Effect.held_of_ne (h : Effect s target change s') {j : Nat} (hj : target ≠ some j) :
    (l.note change).held.get? j = l.held.get? j := by
  have hne : ∀ id, target = some id → j ≠ id := by
    rintro id rfl rfl
    exact hj rfl
  cases h with
  | kept => rfl
  | written => rfl
  | granted => rw [Ledger.note, Table.get?_set, if_neg (hne _ rfl), Ledger.get?_vacate,
      if_neg (hne _ rfl)]
  | resized => rw [Ledger.note, Table.get?_set, if_neg (hne _ rfl)]
  | released => rw [Ledger.note, Table.get?_erase, if_neg (hne _ rfl)]
  | surrendered => rw [Ledger.note, Table.get?_set, if_neg (hne _ rfl)]
  | reclaimed => rw [Ledger.note, Table.get?_set, if_neg (hne _ rfl)]

lemma Effect.held_agrees_other (hs : s.Sound) (ha : l.Agrees s) (h : Effect s target change s')
    {j : Nat} (hj : target ≠ some j) :
    (l.note change).held.get? j = (s'.slots.get? j).map s'.heap.holding := by
  rw [h.held_of_ne hj, ha.held, h.slot_eq hj]
  cases ht : s.slots.get? j with
  | none => rfl
  | some t =>
    rw [Option.map_some, Option.map_some, Heap.holding_congr (h.cell?_other hs ht hj)]

lemma Effect.held_agrees_target (hs : s.Sound) (ha : l.Agrees s)
    (h : Effect s (some id) change s') :
    (l.note change).held.get? id = (s'.slots.get? id).map s'.heap.holding := by
  cases h with
  | kept => exact ha.held id
  | @written id b heap hb hheap =>
    show l.held.get? id = (s.slots.get? id).map heap.holding
    rw [ha.held_of_owned hb, Session.owned?_eq_some.1 hb]
    rfl
  | granted =>
    rw [Ledger.note, Table.get?_set_self, Table.get?_set_self]
    rfl
  | resized =>
    rw [Ledger.note, Table.get?_set_self, Table.get?_set_self]
    rfl
  | released =>
    rw [Ledger.note, Table.get?_erase, Table.get?_erase, if_pos rfl, if_pos rfl]
    rfl
  | surrendered hb =>
    -- the raw pointer knows no length, but the header does
    obtain ⟨c, hc, hlen⟩ := hs.owned hb
    rw [Ledger.note, Table.get?_set_self, Table.get?_set_self, ha.lengthOf_of_owned hb,
      Option.map_some, Heap.holding, Heap.cell_eq hc, hlen]
  | reclaimed =>
    rw [Ledger.note, Table.get?_set_self, Table.get?_set_self]
    rfl

/-- The books stay about the blocks of the session. -/
theorem Effect.agrees (hs : s.Sound) (ha : l.Agrees s) (h : Effect s target change s') :
    (l.note change).Agrees s' where
  held j := by
    by_cases hj : target = some j
    · subst hj
      exact h.held_agrees_target hs ha
    · exact h.held_agrees_other hs ha hj
  weigh _ := h.weigh_agrees hs ha

/-! ## The heap records what the books ask for -/

lemma Effect.counters_eq (ha : l.Agrees s) (h : Effect s target change s') :
    s'.heap.counters = (l.events change).foldl Counters.record s.heap.counters := by
  cases h with
  | kept => rfl
  | written hb hheap =>
    obtain ⟨bs, -, rfl⟩ := hheap
    exact Heap.setBytes_counters _ _ _
  | granted =>
    simp only
    rw [Ledger.events, ha.dropped_eq, Heap.counters_release]
    rfl
  | resized hb hroom =>
    rw [Ledger.events, ha.lengthOf_of_owned hb]
    rfl
  | released hb =>
    rw [Ledger.events, ha.lengthOf_of_owned hb]
    rfl
  | surrendered => rfl
  | reclaimed => rfl

/-! ## The counters follow the books -/

/-- The books are in order if the weights are, which is how changes are reckoned. -/
lemma Ledger.balances_iff : l.Balances c ↔ Tally c (l.weigh fun _ => 1) (l.weigh UInt64.toNat) ∧
    Counted c l.allocations l.reallocations l.frees ∧
    l.allocations = (l.weigh fun _ => 1) + l.frees := by
  rw [l.weigh_one]
  constructor
  · rintro ⟨htally, hcounted, hbalance⟩
    exact ⟨htally, hcounted, hbalance⟩
  · rintro ⟨htally, hcounted, hbalance⟩
    exact ⟨htally, hcounted, hbalance⟩

/-- Handing out a block moves the counters exactly if all blocks fit half of the addresses while the
block that it replaces has not been given back yet. -/
lemma Ledger.Balances.granted (hb : l.Balances c) {n : UInt64} (id : Nat)
    (hroom : l.weigh footprint + footprint n ≤ 2 ^ 63) :
    (l.note (.granted id n)).Balances ((l.events (.granted id n)).foldl Counters.record c) ∧
      NoWrap c (l.updates (.granted id n)) := by
  have hblocks := l.weigh_granted (f := fun _ => 1) id n
  have hbytes := l.weigh_granted (f := UInt64.toNat) id n
  obtain ⟨ha, hr, hf⟩ := l.granted_counts id n
  obtain ⟨htally, hcounted, hbalance⟩ := Ledger.balances_iff.1 hb
  rw [l.weigh_footprint, footprint, ← l.weigh_one] at hroom
  obtain ⟨hwrap, htally₁⟩ := htally.allocated (n := n) (by omega) (by omega)
  have hcounted₁ := hcounted.allocated n
  rw [Ledger.balances_iff, Ledger.updates, Ledger.events, ha, hr, hf]
  -- the number was free or had a raw pointer, or its block is given back now
  rcases l.dropped_eq id with hd | ⟨m, hd⟩
  · rw [hd] at hblocks hbytes ⊢
    rw [List.map_nil, List.sum_nil, Nat.add_zero] at hblocks hbytes
    rw [hblocks, hbytes]
    exact ⟨⟨htally₁, hcounted₁, by rw [List.length_nil]; omega⟩, by simpa using hwrap⟩
  · rw [hd] at hblocks hbytes ⊢
    rw [List.map_singleton, List.sum_singleton] at hblocks hbytes
    rw [← hblocks] at htally₁
    obtain ⟨hwrap₁, htally₂⟩ := htally₁.freed hbytes
    refine ⟨⟨htally₂, hcounted₁.freed m, by rw [List.length_singleton]; omega⟩, ?_⟩
    simp only [List.map_singleton, List.flatMap_cons, List.flatMap_nil, List.append_nil]
    exact noWrap_append.2 ⟨hwrap, hwrap₁⟩

/-- A block may change its length if its new length fits beside all blocks, its own old one
included. -/
lemma Ledger.Balances.resized (hb : l.Balances c) {h : Holding} (hheld : l.held.get? id = some h)
    {n : UInt64} (hroom : l.weigh UInt64.toNat + n.toNat < 2 ^ 64) :
    (l.note (.resized id n)).Balances ((l.events (.resized id n)).foldl Counters.record c) ∧
      NoWrap c (l.updates (.resized id n)) := by
  have hblocks := weigh_resized (f := fun _ => 1) hheld n
  have hbytes := weigh_resized (f := UInt64.toNat) hheld n
  have hrest := weigh_released (f := UInt64.toNat) hheld
  obtain ⟨htally, hcounted, hbalance⟩ := Ledger.balances_iff.1 hb
  obtain ⟨hwrap, htally₁⟩ := htally.reallocated hroom hrest
  rw [Ledger.balances_iff, Ledger.updates, Ledger.events, lengthOf_of_held hheld]
  have hone : (l.note (.resized id n)).weigh (fun _ => 1) = l.weigh fun _ => 1 :=
    Nat.add_right_cancel hblocks
  have hnew : (l.note (.resized id n)).weigh UInt64.toNat =
      (l.note (.released id)).weigh UInt64.toNat + n.toNat := by
    omega
  rw [hone, hnew]
  refine ⟨⟨htally₁, hcounted.reallocated h.length n, hbalance⟩, ?_⟩
  simpa using hwrap

lemma Ledger.Balances.released (hb : l.Balances c) {h : Holding}
    (hheld : l.held.get? id = some h) :
    (l.note (.released id)).Balances ((l.events (.released id)).foldl Counters.record c) ∧
      NoWrap c (l.updates (.released id)) := by
  have hblocks := weigh_released (f := fun _ => 1) hheld
  have hbytes := weigh_released (f := UInt64.toNat) hheld
  obtain ⟨htally, hcounted, hbalance⟩ := Ledger.balances_iff.1 hb
  rw [← hblocks] at htally
  obtain ⟨hwrap, htally₁⟩ := htally.freed hbytes
  have hfrees : (l.note (.released id)).allocations =
      (l.note (.released id)).weigh (fun _ => 1) + (l.note (.released id)).frees := by
    show l.allocations = _ + (l.frees + 1)
    omega
  rw [Ledger.balances_iff, Ledger.updates, Ledger.events, lengthOf_of_held hheld]
  refine ⟨⟨htally₁, hcounted.freed h.length, hfrees⟩, ?_⟩
  simpa using hwrap

/-- A block that changes hands is still the same one. -/
lemma Ledger.Balances.of_weigh_eq (hb : l.Balances c) {l' : Ledger}
    (hweigh : ∀ f, l'.weigh f = l.weigh f) (ha : l'.allocations = l.allocations)
    (hr : l'.reallocations = l.reallocations) (hf : l'.frees = l.frees) : l'.Balances c := by
  rw [Ledger.balances_iff, hweigh, hweigh, ha, hr, hf]
  exact Ledger.balances_iff.1 hb

/-- Every effect keeps the books balanced, without any update that wraps. -/
theorem Effect.balances (hs : s.Sound) (hc : s.heap.capacity ≤ 2 ^ 63) (ha : l.Agrees s)
    (hb : l.Balances s.heap.counters) (h : Effect s target change s') :
    (l.note change).Balances ((l.events change).foldl Counters.record s.heap.counters) ∧
      NoWrap s.heap.counters (l.updates change) := by
  have hfoot : l.weigh footprint ≤ 2 ^ 63 := by
    rw [ha.weigh]
    exact Nat.le_trans hs.heap.occupied_le hc
  cases h with
  | kept => exact ⟨hb, trivial⟩
  | written => exact ⟨hb, trivial⟩
  | @granted id d hroom hd =>
    refine hb.granted id ?_
    rw [ha.weigh]
    exact Nat.le_trans hroom.2 hc
  | @resized id b length howned hroom =>
    -- both the old length and the new one lie within half of the addresses
    refine hb.resized (ha.held_of_owned howned) ?_
    have hle := hroom.1
    rw [l.weigh_footprint] at hfoot
    rw [footprint, largestFootprint] at hle
    omega
  | released howned => exact hb.released (ha.held_of_owned howned)
  | surrendered howned =>
    refine ⟨hb.of_weigh_eq ?_ rfl rfl rfl, trivial⟩
    intro f
    exact Ledger.weigh_surrendered (ha.held_of_owned howned)
  | @reclaimed id x hx =>
    refine ⟨hb.of_weigh_eq ?_ rfl rfl rfl, trivial⟩
    intro f
    exact Ledger.weigh_reclaimed (ha.held_of_raw hx)

/-! ## Runs -/

/-- The steps of a run with their answers, which is all that a script gets to see. -/
def Session.trace (s : Session) (steps : List Step) : List (Step × Answer) :=
  steps.zip ((s.run steps).2.map Prod.fst)

/-- The books after some steps and their answers. -/
def Ledger.read (l : Ledger) : List (Step × Answer) → Ledger
  | [] => l
  | (p, a) :: rest => (l.note (p.change a)).read rest

/-- The updates that some steps and their answers ask for, in order. -/
def Ledger.recorded (l : Ledger) : List (Step × Answer) → List Update
  | [] => []
  | (p, a) :: rest => l.updates (p.change a) ++ (l.note (p.change a)).recorded rest

/-- A sound session of a heap that lies within half of the addresses, with books that are about it
and say what its counters say. -/
structure Ledger.InOrder (l : Ledger) (s : Session) : Prop where
  sound : s.Sound
  capacity_le : s.heap.capacity ≤ 2 ^ 63
  agrees : l.Agrees s
  balances : l.Balances s.heap.counters

lemma Effect.capacity_eq (h : Effect s target change s') : s'.heap.capacity = s.heap.capacity := by
  cases h with
  | kept => rfl
  | written hb hheap =>
    obtain ⟨bs, -, rfl⟩ := hheap
    exact Heap.setBytes_capacity _ _ _
  | @granted id d =>
    -- handing out and giving back both keep what they do not mention
    cases s.owned? id with
    | none => rfl
    | some old => rfl
  | resized => rfl
  | released => rfl
  | surrendered => rfl
  | reclaimed => rfl

lemma Ledger.foldl_updates (l : Ledger) (change : Change) (c : Counters) :
    (l.updates change).foldl Counters.update c = (l.events change).foldl Counters.record c := by
  rw [updates, List.foldl_flatMap]
  rfl

lemma Ledger.InOrder.step (h : l.InOrder s) (p : Step) :
    let change := p.change (s.step p).2
    (l.note change).InOrder (s.step p).1 ∧
      (s.step p).1.heap.counters = (l.updates change).foldl Counters.update s.heap.counters ∧
      NoWrap s.heap.counters (l.updates change) := by
  obtain ⟨hs, hc, ha, hb⟩ := h
  have heffect := step_effect hs p
  have hcounters := heffect.counters_eq ha
  obtain ⟨hbalances, hwrap⟩ := heffect.balances hs hc ha hb
  rw [← hcounters] at hbalances
  refine ⟨⟨heffect.sound hs, ?_, heffect.agrees hs ha, hbalances⟩, ?_, hwrap⟩
  · rw [heffect.capacity_eq]
    exact hc
  · rw [Ledger.foldl_updates]
    exact hcounters

lemma Ledger.InOrder.run (h : l.InOrder s) (steps : List Step) :
    (l.read (s.trace steps)).InOrder (s.run steps).1 ∧
      (s.run steps).1.heap.counters =
        (l.recorded (s.trace steps)).foldl Counters.update s.heap.counters ∧
      NoWrap s.heap.counters (l.recorded (s.trace steps)) := by
  -- the counters after the first step are where those of the rest start
  induction steps generalizing s l with
  | nil => exact ⟨h, rfl, trivial⟩
  | cons p rest ih =>
    obtain ⟨hstep, hcounters, hwrap⟩ := h.step p
    obtain ⟨hrest, hlast, hwraps⟩ := ih hstep
    rw [hcounters] at hlast hwraps
    refine ⟨hrest, ?_, ?_⟩
    · show ((s.step p).1.run rest).1.heap.counters = _
      rw [hlast]
      exact (List.foldl_append).symm
    · exact noWrap_append.2 ⟨hwrap, hwraps⟩

lemma Ledger.inOrder_start {capacity : Nat} (hc : capacity ≤ 2 ^ 63) :
    empty.InOrder (.start capacity) where
  sound := Session.sound_start capacity
  capacity_le := hc
  agrees := ⟨fun _ => rfl, fun _ => rfl⟩
  balances := ⟨⟨rfl, rfl⟩, ⟨rfl, rfl, rfl⟩, rfl⟩

/-- A step counts at most one block as handed out and at most one as changed. -/
lemma Ledger.counts_note_le (l : Ledger) (change : Change) :
    (l.note change).allocations ≤ l.allocations + 1 ∧
      (l.note change).reallocations ≤ l.reallocations + 1 := by
  cases change with
  | granted id n =>
    obtain ⟨ha, hr, -⟩ := l.granted_counts id n
    omega
  | none => exact ⟨Nat.le_succ _, Nat.le_succ _⟩
  | resized => exact ⟨Nat.le_succ _, Nat.le_refl _⟩
  | released => exact ⟨Nat.le_succ _, Nat.le_succ _⟩
  | surrendered => exact ⟨Nat.le_succ _, Nat.le_succ _⟩
  | reclaimed => exact ⟨Nat.le_succ _, Nat.le_succ _⟩

lemma Ledger.counts_read_le (l : Ledger) (trace : List (Step × Answer)) :
    (l.read trace).allocations ≤ l.allocations + trace.length ∧
      (l.read trace).reallocations ≤ l.reallocations + trace.length := by
  induction trace generalizing l with
  | nil => exact ⟨Nat.le_refl _, Nat.le_refl _⟩
  | cons e rest ih =>
    obtain ⟨p, a⟩ := e
    obtain ⟨ha, hr⟩ := l.counts_note_le (p.change a)
    obtain ⟨ha', hr'⟩ := ih (l.note (p.change a))
    rw [read, List.length_cons]
    omega

lemma Session.length_trace_le (s : Session) (steps : List Step) :
    (s.trace steps).length ≤ steps.length := by
  rw [trace, List.length_zip]
  exact Nat.min_le_left _ _

/-- Counters that only grow are exact as long as no number of events is too large for a word. -/
lemma Ledger.Balances.exact (hb : l.Balances c) (ha : l.allocations < 2 ^ 64)
    (hr : l.reallocations < 2 ^ 64) :
    c.allocations.toNat = l.allocations ∧ c.reallocations.toNat = l.reallocations ∧
      c.frees.toNat = l.frees := by
  obtain ⟨-, ⟨hallocs, hreallocs, hfrees⟩, hbalance⟩ := hb
  rw [hallocs, hreallocs, hfrees]
  refine ⟨?_, ?_, ?_⟩
  · exact UInt64.toNat_ofNat_of_lt' ha
  · exact UInt64.toNat_ofNat_of_lt' hr
  · exact UInt64.toNat_ofNat_of_lt' (show l.frees < 2 ^ 64 by omega)

/-- After every script, the counters say what has happened: how many blocks are owned or known by a
raw pointer, how many bytes these have, and how many blocks have been handed out, changed and given
back.  All blocks handed out are in use or given back, and on the way to the last state no update
has wrapped a counter that also shrinks.

No process can reach more than half of all addresses, so the blocks of a heap lie within them. -/
theorem run_accounted {capacity : Nat} (hc : capacity ≤ 2 ^ 63) (steps : List Step) :
    let s := ((Session.start capacity).run steps).1
    let trace := (Session.start capacity).trace steps
    let l := Ledger.empty.read trace
    let updates := Ledger.empty.recorded trace
    (∀ id, l.held.get? id = (s.slots.get? id).map s.heap.holding) ∧
      l.Balances s.heap.counters ∧
      (steps.length < 2 ^ 64 → s.heap.counters.allocations.toNat = l.allocations ∧
        s.heap.counters.reallocations.toNat = l.reallocations ∧
        s.heap.counters.frees.toNat = l.frees) ∧
      s.heap.counters = updates.foldl Counters.update .zero ∧ NoWrap .zero updates := by
  intro s trace l updates
  obtain ⟨⟨-, -, hagrees, hbalances⟩, hcounters, hwrap⟩ := (Ledger.inOrder_start hc).run steps
  refine ⟨hagrees.held, hbalances, ?_, hcounters, hwrap⟩
  intro hlen
  have htrace := (Session.start capacity).length_trace_le steps
  obtain ⟨ha, hr⟩ := Ledger.empty.counts_read_le ((Session.start capacity).trace steps)
  have hzero : Ledger.empty.allocations = 0 ∧ Ledger.empty.reallocations = 0 := ⟨rfl, rfl⟩
  exact hbalances.exact (by omega) (by omega)

/-- A block changes its length once and is given back when it asks for too much; the block that has
become a raw pointer is still counted. -/
theorem run_accounted_failed_change :
    let steps : List Step := [.zeroed 0 4, .ofBytes 1 [1, 2, 3], .intoRaw 1, .reallocate 0 10,
      .reallocate 0 Word.largest]
    let s := ((Session.start standardCapacity).run steps).1
    let l := Ledger.empty.read ((Session.start standardCapacity).trace steps)
    standardCapacity ≤ 2 ^ 63 ∧ steps.length < 2 ^ 64 ∧ l.Balances s.heap.counters ∧
      s.heap.counters = ⟨1, 3, 2, 1, 1⟩ ∧ s.heap.counters.allocations.toNat = 2 := by
  intro steps s l
  have hc : standardCapacity ≤ 2 ^ 63 := by decide
  have hlen : steps.length < 2 ^ 64 := by decide
  obtain ⟨-, hbalances, hexact, -, -⟩ := run_accounted hc steps
  refine ⟨hc, hlen, hbalances, ?_, ?_⟩
  · decide +kernel
  · rw [(hexact hlen).1]
    decide +kernel

end RuntimeSupport.Memory

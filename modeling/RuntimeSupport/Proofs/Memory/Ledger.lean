import RuntimeSupport.Proofs.Memory.Effect

/-!
# The books of a script

A ledger is what a script can write down from its own steps and their answers, without ever looking
at the heap or its counters: the blocks that it has not given back, and how often it has got,
changed and given back one.  `Ledger.events` says which events the heap ought to record with it.

The second half is about the counters.  They are words and wrap around, but an event that fits what
has been counted so far moves them exactly (`Tally.record`), and none of its updates wraps one of
the counters that also shrink (`NoWrap`).
-/

namespace RuntimeSupport.Memory

/-- What a script knows of a block that it has not given back. -/
inductive Holding
  /-- A block that it owns. -/
  | owned (length : UInt64)
  /-- A block that it has a raw pointer to. -/
  | raw (length : UInt64)
  deriving DecidableEq, Repr

/-- The length of a block. -/
def Holding.length : Holding → UInt64
  | .owned n => n
  | .raw n => n

/-- The books of a script. -/
structure Ledger where
  /-- What its numbers stand for. -/
  held : Table Nat Holding
  /-- The lengths of the blocks whose raw pointers are out of its numbers. -/
  abandoned : List UInt64
  /-- How often a block has been handed out. -/
  allocations : Nat
  /-- How often a block has changed its length. -/
  reallocations : Nat
  /-- How often a block has been given back. -/
  frees : Nat

namespace Ledger

/-- The books before anything has happened. -/
def empty : Ledger := ⟨.empty, [], 0, 0, 0⟩

/-- The lengths of all blocks that have not been given back. -/
def lengths (l : Ledger) : List UInt64 := l.held.entries.map (·.2.length) ++ l.abandoned

/-- The length of the block that a number stands for. -/
def lengthOf (l : Ledger) (id : Nat) : UInt64 := (l.held.get? id).elim 0 Holding.length

/-- The lengths of the blocks that are given back when a number is used for another one: there is at
most one. -/
def dropped (l : Ledger) (id : Nat) : List UInt64 :=
  match l.held.get? id with
  | some (.owned n) => [n]
  | _ => []

/-- The books when a number is used for another block. -/
def vacate (l : Ledger) (id : Nat) : Ledger :=
  match l.held.get? id with
  | some (.owned _) => { l with held := l.held.erase id, frees := l.frees + 1 }
  | some (.raw n) => { l with held := l.held.erase id, abandoned := n :: l.abandoned }
  | none => l

/-- The books after a change. -/
def note (l : Ledger) : Change → Ledger
  | .none => l
  | .granted id n =>
    let l' := l.vacate id
    { l' with held := l'.held.set id (.owned n), allocations := l'.allocations + 1 }
  | .resized id n =>
    { l with held := l.held.set id (.owned n), reallocations := l.reallocations + 1 }
  | .released id => { l with held := l.held.erase id, frees := l.frees + 1 }
  | .surrendered id => { l with held := l.held.set id (.raw (l.lengthOf id)) }
  | .reclaimed id n => { l with held := l.held.set id (.owned n) }

/-- The events that make a change. -/
def events (l : Ledger) : Change → List Event
  | .none | .surrendered _ | .reclaimed _ _ => []
  | .granted id n => .allocated n :: (l.dropped id).map .freed
  | .resized id n => [.reallocated (l.lengthOf id) n]
  | .released id => [.freed (l.lengthOf id)]

/-! ## What the books weigh -/

/-- The sum of the weights of all blocks that have not been given back. -/
def weigh (f : UInt64 → Nat) (l : Ledger) : Nat := (l.lengths.map f).sum

variable {f : UInt64 → Nat} {l : Ledger} {id : Nat}

lemma weigh_eq (l : Ledger) :
    l.weigh f = l.held.total (fun h => f h.length) + (l.abandoned.map f).sum := by
  simp only [weigh, lengths, List.map_append, List.sum_append, List.map_map]
  rfl

lemma weigh_one (l : Ledger) : l.weigh (fun _ => 1) = l.lengths.length := by
  rw [weigh, List.map_const', List.sum_replicate_nat, Nat.mul_one]

/-- Setting down another holding under a number takes away the weight of the one that was there. -/
lemma weigh_set (l : Ledger) (id : Nat) (h : Holding) :
    { l with held := l.held.set id h }.weigh f + l.held.weight (fun h => f h.length) id =
      l.weigh f + f h.length := by
  have htotal := l.held.total_set (fun h => f h.length) id h
  simp only [weigh_eq]
  omega

lemma weigh_erase (l : Ledger) (id : Nat) :
    { l with held := l.held.erase id }.weigh f + l.held.weight (fun h => f h.length) id =
      l.weigh f := by
  have htotal := l.held.total_erase (fun h => f h.length) id
  simp only [weigh_eq]
  omega

lemma get?_vacate (l : Ledger) (id j : Nat) :
    (l.vacate id).held.get? j = if j = id then none else l.held.get? j := by
  unfold vacate
  split
  · rw [Table.get?_erase]
  · rw [Table.get?_erase]
  · next hnone =>
    split
    · next hj => rw [hj, hnone]
    · rfl

lemma weigh_vacate (l : Ledger) (id : Nat) :
    (l.vacate id).weigh f + ((l.dropped id).map f).sum = l.weigh f := by
  have herase := l.weigh_erase (f := f) id
  unfold vacate dropped
  cases hh : l.held.get? id with
  | none => rfl
  | some h =>
    rw [Table.weight_of_some hh] at herase
    cases h with
    | owned n =>
      simp only [List.map_cons, List.map_nil, List.sum_cons, List.sum_nil, Nat.add_zero]
      exact herase
    | raw n =>
      -- it weighs as much among the abandoned ones
      simp only [weigh_eq, Holding.length, List.map_cons, List.sum_cons] at herase ⊢
      simp only [List.map_nil, List.sum_nil]
      omega

lemma weigh_granted (l : Ledger) (id : Nat) (n : UInt64) :
    (l.note (.granted id n)).weigh f + ((l.dropped id).map f).sum = l.weigh f + f n := by
  have hset := (l.vacate id).weigh_set (f := f) id (.owned n)
  have hvacate := l.weigh_vacate (f := f) id
  have hnone : (l.vacate id).held.get? id = none := by rw [get?_vacate, if_pos rfl]
  rw [Table.weight_of_none hnone] at hset
  have hnote : (l.note (.granted id n)).weigh f + 0 = (l.vacate id).weigh f + f n := hset
  omega

section

variable {h : Holding} (hheld : l.held.get? id = some h)

include hheld

lemma lengthOf_of_held : l.lengthOf id = h.length := by
  rw [lengthOf, hheld, Option.elim_some]

lemma weigh_resized (n : UInt64) :
    (l.note (.resized id n)).weigh f + f h.length = l.weigh f + f n := by
  have hset := l.weigh_set (f := f) id (.owned n)
  rw [Table.weight_of_some hheld] at hset
  exact hset

lemma weigh_released : (l.note (.released id)).weigh f + f h.length = l.weigh f := by
  have herase := l.weigh_erase (f := f) id
  rw [Table.weight_of_some hheld] at herase
  exact herase

lemma weigh_surrendered : (l.note (.surrendered id)).weigh f = l.weigh f := by
  have hset := l.weigh_set (f := f) id (.raw (l.lengthOf id))
  rw [Table.weight_of_some hheld, ← lengthOf_of_held hheld] at hset
  exact Nat.add_right_cancel hset

lemma weigh_reclaimed : (l.note (.reclaimed id h.length)).weigh f = l.weigh f := by
  have hset := l.weigh_set (f := f) id (.owned h.length)
  rw [Table.weight_of_some hheld] at hset
  exact Nat.add_right_cancel hset

end

lemma vacate_counts (l : Ledger) (id : Nat) :
    (l.vacate id).allocations = l.allocations ∧ (l.vacate id).reallocations = l.reallocations ∧
      (l.vacate id).frees = l.frees + (l.dropped id).length := by
  unfold vacate dropped
  rcases l.held.get? id with _ | ⟨n⟩ | ⟨n⟩
  · exact ⟨rfl, rfl, rfl⟩
  · exact ⟨rfl, rfl, rfl⟩
  · exact ⟨rfl, rfl, rfl⟩

lemma granted_counts (l : Ledger) (id : Nat) (n : UInt64) :
    (l.note (.granted id n)).allocations = l.allocations + 1 ∧
      (l.note (.granted id n)).reallocations = l.reallocations ∧
      (l.note (.granted id n)).frees = l.frees + (l.dropped id).length := by
  obtain ⟨ha, hr, hf⟩ := l.vacate_counts id
  exact ⟨congrArg (· + 1) ha, hr, hf⟩

lemma dropped_eq (l : Ledger) (id : Nat) : l.dropped id = [] ∨ ∃ n, l.dropped id = [n] := by
  unfold dropped
  rcases l.held.get? id with _ | ⟨n⟩ | ⟨n⟩
  · exact .inl rfl
  · exact .inr ⟨n, rfl⟩
  · exact .inl rfl

/-- A footprint is a length and a header. -/
lemma weigh_footprint (l : Ledger) :
    l.weigh footprint = l.weigh UInt64.toNat + 16 * l.lengths.length := by
  unfold weigh
  induction l.lengths with
  | nil => rfl
  | cons n ns ih =>
    simp only [List.map_cons, List.sum_cons, List.length_cons, ih, footprint]
    omega

end Ledger

/-! ## Updates that do not wrap -/

/-- Whether a counter also shrinks, and so says how much there is at present. -/
def Counter.isGauge : Counter → Bool
  | .liveBlocks | .liveBytes => true
  | .allocations | .reallocations | .frees => false

/-- An update of a counter that also shrinks gives the exact sum or difference. -/
def Update.Exact (c : Counters) : Update → Prop
  | .add which n => which.isGauge → (c.get which).toNat + n.toNat < 2 ^ 64
  | .subtract which n => which.isGauge → n.toNat ≤ (c.get which).toNat

/-- None of some updates wraps a counter that also shrinks. -/
def NoWrap (c : Counters) : List Update → Prop
  | [] => True
  | u :: us => u.Exact c ∧ NoWrap (c.update u) us

lemma noWrap_append {c : Counters} {us vs : List Update} :
    NoWrap c (us ++ vs) ↔ NoWrap c us ∧ NoWrap (us.foldl Counters.update c) vs := by
  induction us generalizing c with
  | nil => simp [NoWrap]
  | cons u us ih => simp only [List.cons_append, NoWrap, ih, List.foldl_cons, and_assoc]

/-- The counters that also shrink say that there are so many blocks, with so many bytes. -/
structure Tally (c : Counters) (blocks bytes : Nat) : Prop where
  liveBlocks : c.liveBlocks.toNat = blocks
  liveBytes : c.liveBytes.toNat = bytes

/-- The counters that only grow say, up to wrapping, how often each kind of event has happened. -/
structure Counted (c : Counters) (allocations reallocations frees : Nat) : Prop where
  allocations : c.allocations = UInt64.ofNat allocations
  reallocations : c.reallocations = UInt64.ofNat reallocations
  frees : c.frees = UInt64.ofNat frees

section

variable {c : Counters} {blocks bytes a r f : Nat}

lemma Counted.allocated (h : Counted c a r f) (n : UInt64) :
    Counted (c.record (.allocated n)) (a + 1) r f :=
  ⟨by rw [Counters.record_allocated, UInt64.ofNat_add, h.allocations]; rfl, h.reallocations,
    h.frees⟩

lemma Counted.reallocated (h : Counted c a r f) (old new : UInt64) :
    Counted (c.record (.reallocated old new)) a (r + 1) f :=
  ⟨h.allocations,
    by rw [Counters.record_reallocated, UInt64.ofNat_add, h.reallocations]; rfl, h.frees⟩

lemma Counted.freed (h : Counted c a r f) (n : UInt64) :
    Counted (c.record (.freed n)) a r (f + 1) :=
  ⟨h.allocations, h.reallocations,
    by rw [Counters.record_freed, UInt64.ofNat_add, h.frees]; rfl⟩

/-- A counter that only grows may wrap. -/
lemma Update.exact_add {which : Counter} (h : which.isGauge = false) (n : UInt64) :
    (Update.add which n).Exact c :=
  fun hgauge => absurd hgauge (by rw [h]; decide)

lemma toNat_add_of_lt {a b : UInt64} (h : a.toNat + b.toNat < 2 ^ 64) :
    (a + b).toNat = a.toNat + b.toNat := by
  rw [UInt64.toNat_add, Nat.mod_eq_of_lt h]

lemma toNat_sub_of_le {a b : UInt64} (h : b.toNat ≤ a.toNat) :
    (a - b).toNat = a.toNat - b.toNat :=
  UInt64.toNat_sub_of_le a b (UInt64.le_iff_toNat_le.2 h)

lemma toNat_one : (1 : UInt64).toNat = 1 := rfl

lemma Tally.allocated (h : Tally c blocks bytes) {n : UInt64} (hblocks : blocks + 1 < 2 ^ 64)
    (hbytes : bytes + n.toNat < 2 ^ 64) :
    NoWrap c (Event.allocated n).updates ∧
      Tally (c.record (.allocated n)) (blocks + 1) (bytes + n.toNat) := by
  obtain ⟨hb, hy⟩ := h
  have hone : c.liveBlocks.toNat + (1 : UInt64).toNat < 2 ^ 64 := by
    rw [toNat_one, hb]
    exact hblocks
  have hn : c.liveBytes.toNat + n.toNat < 2 ^ 64 := by
    rw [hy]
    exact hbytes
  refine ⟨⟨Update.exact_add rfl 1, fun _ => hone, fun _ => hn, trivial⟩, ?_, ?_⟩
  · rw [Counters.record_allocated, toNat_add_of_lt hone, toNat_one, hb]
  · rw [Counters.record_allocated, toNat_add_of_lt hn, hy]

/-- A change of length adds before it subtracts, so there must be room for both lengths. -/
lemma Tally.reallocated (h : Tally c blocks bytes) {old new : UInt64} {rest : Nat}
    (hbytes : bytes + new.toNat < 2 ^ 64) (hold : rest + old.toNat = bytes) :
    NoWrap c (Event.reallocated old new).updates ∧
      Tally (c.record (.reallocated old new)) blocks (rest + new.toNat) := by
  obtain ⟨hb, hy⟩ := h
  have hn : c.liveBytes.toNat + new.toNat < 2 ^ 64 := by
    rw [hy]
    exact hbytes
  have hsub : old.toNat ≤ (c.liveBytes + new).toNat := by
    rw [toNat_add_of_lt hn]
    omega
  refine ⟨⟨Update.exact_add rfl 1, fun _ => hn, fun _ => hsub, trivial⟩, hb, ?_⟩
  rw [Counters.record_reallocated, toNat_sub_of_le hsub, toNat_add_of_lt hn]
  omega

lemma Tally.freed (h : Tally c (blocks + 1) bytes) {n : UInt64} {rest : Nat}
    (hn : rest + n.toNat = bytes) :
    NoWrap c (Event.freed n).updates ∧ Tally (c.record (.freed n)) blocks rest := by
  obtain ⟨hb, hy⟩ := h
  -- there is at least the block that is given back
  have hone : (1 : UInt64).toNat ≤ c.liveBlocks.toNat := by
    rw [toNat_one]
    omega
  have hsub : n.toNat ≤ c.liveBytes.toNat := by omega
  refine ⟨⟨Update.exact_add rfl 1, fun _ => hone, fun _ => hsub, trivial⟩, ?_, ?_⟩
  · rw [Counters.record_freed, toNat_sub_of_le hone, toNat_one]
    omega
  · rw [Counters.record_freed, toNat_sub_of_le hsub]
    omega

end

end RuntimeSupport.Memory

import RuntimeSupport.Proofs.Memory.Account
import RuntimeSupport.Proofs.Memory.Independence

/-!
# Blocks whose length changes

A block that gets another length keeps the bytes that fit and is filled up with zeros.  However
often that happens, the same can be said of the whole (`padded`): the bytes that have fitted every
length are kept, and everything behind them is zero.  So a byte that is cut off once does not come
back when the block grows again (`Cell.Sound.remains`).

A script can do much else in between, as long as it does not write to the block
(`Step.Spares`, `Session.Sound.contents?_run`).
-/

namespace RuntimeSupport.Memory

/-! ## The bytes of a cell -/

/-- The first `kept` of some bytes, and zeros up to the given length. -/
def padded (bs : Bytes) (kept length : Nat) : Bytes :=
  bs.take kept ++ List.replicate (length - kept) 0

/-- What remains of a cell that has been given one length after the other. -/
structure Cell.Remains (c : Cell) (lengths : List UInt64) (last : Cell) : Prop where
  /-- The length is the last one. -/
  length : last.length = lengths.getLastD c.length
  /-- There are as many bytes as that. -/
  length_bytes : last.bytes.length = last.length.toNat
  /-- The bytes that have fitted every length are kept, and zeros follow. -/
  bytes : last.bytes =
    padded c.bytes ((lengths.map UInt64.toNat).foldl min c.length.toNat) last.length.toNat
  /-- Where a length has cut something off, there are zeros. -/
  cut : ∀ n ∈ lengths, ∀ i, n.toNat ≤ i → i < last.length.toNat → last.bytes[i]? = some 0

section

variable {bs : Bytes} {kept : Nat}

lemma length_padded {length : Nat} (hbs : kept ≤ bs.length) (hle : kept ≤ length) :
    (padded bs kept length).length = length := by
  rw [padded, List.length_append, List.length_take, List.length_replicate]
  omega

lemma padded_self {length : Nat} (h : bs.length = length) : padded bs length length = bs := by
  rw [padded, Nat.sub_self, List.replicate_zero, List.append_nil,
    List.take_of_length_le (Nat.le_of_eq h)]

lemma getElem?_padded_of_le {length i : Nat} (hbs : kept ≤ bs.length) (hle : kept ≤ i)
    (hlt : i < length) : (padded bs kept length)[i]? = some 0 := by
  have htake : (bs.take kept).length = kept := List.length_take_of_le hbs
  rw [padded, List.getElem?_append_right (by omega), List.getElem?_replicate, if_pos (by omega)]

/-- One more length cuts off some of what has been kept, or adds zeros to the zeros. -/
lemma resize_padded {length : UInt64} (hbs : kept ≤ bs.length) (hle : kept ≤ length.toNat)
    (n : UInt64) :
    Cell.resize ⟨length, padded bs kept length.toNat⟩ n =
      ⟨n, padded bs (min kept n.toNat) n.toNat⟩ := by
  have htake : (bs.take kept).length = kept := List.length_take_of_le hbs
  have hzeros : min (n.toNat - kept) (length.toNat - kept) + (n.toNat - length.toNat) =
      n.toNat - min kept n.toNat := by omega
  rw [Cell.resize, Cell.mk.injEq]
  refine ⟨rfl, ?_⟩
  rw [padded, padded, List.take_append, htake, List.take_take, List.take_replicate,
    List.append_assoc, List.replicate_append_replicate, hzeros, Nat.min_comm n.toNat]

lemma foldl_resize_padded {length : UInt64} (hbs : kept ≤ bs.length) (hle : kept ≤ length.toNat)
    (lengths : List UInt64) :
    lengths.foldl Cell.resize ⟨length, padded bs kept length.toNat⟩ =
      ⟨lengths.getLastD length, padded bs ((lengths.map UInt64.toNat).foldl min kept)
        (lengths.getLastD length).toNat⟩ := by
  induction lengths generalizing length kept with
  | nil => rfl
  | cons n rest ih =>
    rw [List.foldl_cons, resize_padded hbs hle, ih (by omega) (by omega), List.getLastD_cons,
      List.map_cons, List.foldl_cons]

lemma foldl_min_le (ms : List Nat) (k : Nat) :
    ms.foldl min k ≤ k ∧ ∀ m ∈ ms, ms.foldl min k ≤ m := by
  induction ms generalizing k with
  | nil => simp
  | cons m ms ih =>
    obtain ⟨hk, hms⟩ := ih (min k m)
    rw [List.foldl_cons, List.forall_mem_cons]
    exact ⟨by omega, by omega, hms⟩

end

/-- The bytes of a cell that are cut off once do not come back. -/
theorem Cell.Sound.remains {c : Cell} (hc : c.Sound) (lengths : List UInt64) :
    c.Remains lengths (lengths.foldl Cell.resize c) := by
  have hlength := hc.length_bytes
  obtain ⟨hleast, hcuts⟩ := foldl_min_le (lengths.map UInt64.toNat) c.length.toNat
  have hlast : (lengths.map UInt64.toNat).foldl min c.length.toNat ≤
      (lengths.getLastD c.length).toNat := by
    rcases List.mem_cons.1 lengths.getLastD_mem_cons with hfirst | hmem
    · rw [hfirst]
      exact hleast
    · exact hcuts _ (List.mem_map_of_mem hmem)
  have hfold : lengths.foldl Cell.resize c = ⟨lengths.getLastD c.length,
      padded c.bytes ((lengths.map UInt64.toNat).foldl min c.length.toNat)
        (lengths.getLastD c.length).toNat⟩ := by
    have hall := foldl_resize_padded (Nat.le_of_eq hlength.symm) (Nat.le_refl _) lengths
    rwa [padded_self hlength] at hall
  rw [hfold]
  refine ⟨rfl, length_padded (by omega) hlast, rfl, ?_⟩
  intro n hn i hle hlt
  have hcut := hcuts n.toNat (List.mem_map_of_mem hn)
  exact getElem?_padded_of_le (by omega) (by omega) hlt

/-! ## The block under a number -/

variable {s : Session} {id : Nat} {b : Block} {c : Cell} {p : Step} {steps : List Step}

/-- The header and the bytes of the block that a number stands for, owned or not. -/
def Session.contents? (s : Session) (id : Nat) : Option Cell :=
  (s.slots.get? id).bind fun t => s.heap.cell? t.handle

/-- An owner sees what the block holds. -/
lemma Session.Sound.display_eq (hs : s.Sound) (hb : s.owned? id = some b)
    (hc : s.contents? id = some c) : s.display b = .block c.length c.bytes := by
  obtain ⟨d, hd, hlength⟩ := hs.owned hb
  have hcell : s.contents? id = some d := by
    rw [Session.contents?, Session.owned?_eq_some.1 hb]
    exact hd
  obtain rfl : d = c := Option.some.inj (hcell.symm.trans hc)
  have hbytes : d.bytes.length = b.length.toNat := by
    rw [(hs.heap.cells hd).length_bytes, hlength]
  rw [Session.display, Heap.span, Heap.cell_eq hd, List.take_of_length_le (Nat.le_of_eq hbytes),
    hlength]

/-- The length that a step gives to the block under a number, if it does that. -/
def Step.newLength? (id : Nat) : Step → Option UInt64
  | .reallocate i length => if i = id then some length else none
  | _ => none

/-- A step that neither writes to the block under a number nor gives it back nor puts another one in
its place.  It may look at it, change its length, and turn it into a raw pointer and back. -/
inductive Step.Spares (id : Nat) : Step → Prop
  | other {p : Step} (h : p.target ≠ some id) : Spares id p
  | read : Spares id (.read id)
  | peek (start stop : UInt64) : Spares id (.peek id start stop)
  | element (index elemSize : UInt64) : Spares id (.element id index elemSize)
  | elementCount (elemSize : UInt64) : Spares id (.elementCount id elemSize)
  | viewOffset (index elemSize : UInt64) : Spares id (.viewOffset id index elemSize)
  | viewCount (elemSize : UInt64) : Spares id (.viewCount id elemSize)
  | reallocate (length : UInt64) : Spares id (.reallocate id length)
  | intoRaw : Spares id (.intoRaw id)
  | ofRaw : Spares id (.ofRaw id)

/-- A step answers with a block if it is to change the length of the one under a number. -/
def Resized (id : Nat) (r : Step × Answer) : Prop :=
  r.1.newLength? id ≠ none → ∃ length bytes, r.2 = .block length bytes

lemma Step.newLength?_of_target_ne (h : p.target ≠ some id) : p.newLength? id = none := by
  cases p with
  | reallocate i length => exact if_neg fun hi => h (congrArg some hi)
  | _ => rfl

/-- A block that is asked to change its length gets it, or is given back. -/
lemma Session.step_reallocate (hb : s.owned? id = some b) (length : UInt64) :
    (s.step (.reallocate id length)).1 =
        ⟨s.heap.move b length, s.slots.set id (.owned (s.heap.nextBlock length))⟩ ∨
      ∃ f, (s.step (.reallocate id length)).2 = .fault f := by
  rw [Session.step, Session.withOwned, hb]
  simp only [Session.reallocate, Heap.reallocate]
  by_cases hroom : (s.heap.erase b.handle).Grants length
  · rw [if_pos hroom]
    exact .inl rfl
  · rw [if_neg hroom]
    exact .inr ⟨_, rfl⟩

lemma Session.withOwned_fst {act : Block → Session × Answer} (h : ∀ b, (act b).1 = s) :
    (s.withOwned id act).1 = s := by
  rw [Session.withOwned]
  cases s.owned? id with
  | none => rfl
  | some b => exact h b

lemma Session.answer_fst {α : Type} (tell : α → Answer) (r : Except Fault α) :
    (s.answer tell r).1 = s := by
  cases r <;> rfl

/-- A number that stands for the same block in another way. -/
lemma Session.contents?_set {t u : Slot} (ht : s.slots.get? id = some t)
    (hc : s.contents? id = some c) (hu : u.handle = t.handle) :
    Session.contents? { s with slots := s.slots.set id u } id = some c := by
  rw [← hc, Session.contents?, Session.contents?, ht, Table.get?_set_self, Option.bind_some,
    Option.bind_some, hu]

lemma Session.contents?_reallocate {length n : UInt64} {bs : Bytes} (hc : s.contents? id = some c)
    (hanswer : (s.step (.reallocate id length)).2 = .block n bs) :
    (s.step (.reallocate id length)).1.contents? id = some (c.resize length) := by
  cases hb : s.owned? id with
  | none =>
    rw [Session.step, Session.withOwned, hb] at hanswer
    cases hanswer
  | some b =>
    have hcell : s.heap.cell? b.handle = some c := by
      rw [Session.contents?, Session.owned?_eq_some.1 hb] at hc
      exact hc
    rcases Session.step_reallocate hb length with hmoved | ⟨f, hfault⟩
    · -- the cell behind the new handle is made from the one that makes way
      rw [hmoved, Session.contents?, Table.get?_set_self]
      show (s.heap.move b length).cell? ⟨s.heap.fresh⟩ = _
      rw [Heap.cell?_move, if_pos rfl, Heap.cell_eq hcell]
    · exact absurd (hfault.symm.trans hanswer) (by simp)

/-- A block that a step spares stays as it is, but for its length. -/
theorem Session.Sound.contents?_step (hs : s.Sound) (hc : s.contents? id = some c)
    (hp : p.Spares id) (hdone : Resized id (p, (s.step p).2)) :
    (s.step p).1.contents? id = some ((p.newLength? id).elim c c.resize) := by
  obtain ⟨t, ht, hcell⟩ := Option.bind_eq_some_iff.1 hc
  have hlooks : ∀ {s' : Session}, s' = s → s'.contents? id = some c := fun h => by rw [h, hc]
  cases hp with
  | other h =>
    obtain ⟨hslot, hsame⟩ := hs.others_step p ht h
    rw [Step.newLength?_of_target_ne h, Session.contents?, hslot]
    exact hsame.trans hcell
  | read => exact hlooks (Session.withOwned_fst fun _ => rfl)
  | peek start stop =>
    refine hlooks (Session.withOwned_fst fun b => ?_)
    split <;> rfl
  | element index elemSize => exact hlooks (Session.withOwned_fst fun _ => s.answer_fst _ _)
  | elementCount elemSize => exact hlooks (Session.withOwned_fst fun _ => s.answer_fst _ _)
  | viewOffset index elemSize => exact hlooks (Session.withOwned_fst fun _ => s.answer_fst _ _)
  | viewCount elemSize => exact hlooks (Session.withOwned_fst fun _ => s.answer_fst _ _)
  | reallocate length =>
    have hlength : (Step.reallocate id length).newLength? id = some length := if_pos rfl
    obtain ⟨n, bs, hanswer⟩ := hdone (by simp [hlength])
    rw [hlength]
    exact Session.contents?_reallocate hc hanswer
  | intoRaw =>
    cases hb : s.owned? id with
    | none =>
      refine hlooks ?_
      rw [Session.step, Session.withOwned, hb]
    | some b =>
      rw [Session.step_intoRaw hb]
      exact Session.contents?_set (Session.owned?_eq_some.1 hb) hc rfl
  | ofRaw =>
    cases t with
    | owned b =>
      refine hlooks ?_
      rw [Session.step, ht]
    | raw x =>
      rw [Session.step_ofRaw ht]
      exact Session.contents?_set ht hc rfl

lemma foldl_filterMap_cons {α β γ : Type} (f : α → Option β) (g : γ → β → γ) (c : γ) (a : α)
    (rest : List α) :
    ((a :: rest).filterMap f).foldl g c = (rest.filterMap f).foldl g ((f a).elim c (g c)) := by
  rw [List.filterMap_cons]
  cases f a <;> rfl

/-- Under a script that spares a block, its bytes change only where its length does. -/
theorem Session.Sound.contents?_run (hs : s.Sound) (hc : s.contents? id = some c)
    (hsteps : ∀ p ∈ steps, p.Spares id) (hdone : ∀ r ∈ s.trace steps, Resized id r) :
    (s.run steps).1.contents? id =
      some ((steps.filterMap (Step.newLength? id)).foldl Cell.resize c) := by
  induction steps generalizing s c with
  | nil => exact hc
  | cons p rest ih =>
    rw [List.forall_mem_cons] at hsteps
    have htrace : s.trace (p :: rest) = (p, (s.step p).2) :: (s.step p).1.trace rest := rfl
    rw [htrace, List.forall_mem_cons] at hdone
    have hrest := ih (hs.step p) (hs.contents?_step hc hsteps.1 hdone.1) hsteps.2 hdone.2
    rw [foldl_filterMap_cons]
    exact hrest

end RuntimeSupport.Memory

import Mathlib.Algebra.BigOperators.Group.Finset.Piecewise
import Mathlib.Algebra.Order.BigOperators.Group.Finset
import Mathlib.Data.Int.ModEq
import Mathlib.Logic.Function.Basic
import RuntimeSupport.Proofs.Memory.Ledger

/-!
# Events that overlap

Several threads may record events at the same time.  A single update happens at once, but between
two updates of an event other blocks may make theirs, so the counters need not agree with any number
of blocks.  `Traffic` describes all blocks together, and `Traffic.Step` is whatever any one of them
does next.  The events of one block do not overlap: the next one begins when the last one has been
recorded, and it must fit the block as the last one left it (`Stage.Follows`).

In the middle of several events, nothing can be said of the counters without saying how far each
block is.  What carries the induction is therefore said of one block at a time (`Course.Accounts`).
The updates that a block has made and those that it has still to make are together the updates of
its events, and it has put its share into each counter (`Course.share`): what its last event leaves
there, without the updates that are still to come.  No share is negative, for a block adds before it
subtracts.  That the counters do not wrap follows by summing over the blocks
(`Traffic.Accounted.net_eq_sum_share`), and that they do not depend on the order of the events
follows since updates may be made in any order (`Counters.update_comm`).
-/

namespace RuntimeSupport.Memory

/-! ## Exact totals -/

/-- What an update does to a counter that cannot wrap. -/
def Update.change (which : Counter) : Update → Int
  | .add c n => if c = which then n.toNat else 0
  | .subtract c n => if c = which then -n.toNat else 0

/-- What a counter would show after some updates if it could not wrap. -/
def net (which : Counter) (us : List Update) : Int := (us.map (Update.change which)).sum

@[simp] lemma net_nil (which : Counter) : net which [] = 0 := rfl

@[simp] lemma net_cons (which : Counter) (u : Update) (us : List Update) :
    net which (u :: us) = u.change which + net which us := List.sum_cons

@[simp] lemma net_append (which : Counter) (us vs : List Update) :
    net which (us ++ vs) = net which us + net which vs := by
  rw [net, List.map_append, List.sum_append, net, net]

lemma Counters.toNat_update_modEq (c : Counters) (u : Update) (which : Counter) :
    (((c.update u).get which).toNat : Int) ≡ (c.get which).toNat + u.change which
      [ZMOD 2 ^ 64] := by
  unfold Int.ModEq
  cases u with
  | add k n =>
    rw [Counters.update, Counters.get_modify, Update.change]
    by_cases hk : which = k
    · rw [if_pos hk, if_pos hk.symm, hk, UInt64.toNat_add]
      omega
    · rw [if_neg hk, if_neg (Ne.symm hk), Int.add_zero]
  | subtract k n =>
    rw [Counters.update, Counters.get_modify, Update.change]
    by_cases hk : which = k
    · have hn := n.toNat_lt
      rw [if_pos hk, if_pos hk.symm, hk, UInt64.toNat_sub]
      omega
    · rw [if_neg hk, if_neg (Ne.symm hk), Int.add_zero]

/-- Up to wrapping, a counter shows its exact total. -/
lemma Counters.toNat_foldl_modEq (us : List Update) (c : Counters) (which : Counter) :
    (((us.foldl update c).get which).toNat : Int) ≡ (c.get which).toNat + net which us
      [ZMOD 2 ^ 64] := by
  induction us generalizing c with
  | nil => rw [List.foldl_nil, net_nil, Int.add_zero]
  | cons u us ih =>
    rw [List.foldl_cons, net_cons, ← Int.add_assoc]
    exact (ih (c.update u)).trans ((c.toNat_update_modEq u which).add_right _)

/-- A counter shows its exact total if that is a word. -/
lemma Counters.toNat_foldl_eq_net {us : List Update} {which : Counter} (hpos : 0 ≤ net which us)
    (hlt : net which us < 2 ^ 64) :
    (((us.foldl update zero).get which).toNat : Int) = net which us := by
  have hmod := toNat_foldl_modEq us zero which
  have hzero : (zero.get which).toNat = 0 := by cases which <;> rfl
  have hword := ((us.foldl update zero).get which).toNat_lt
  rw [hzero, Int.natCast_zero, Int.zero_add] at hmod
  unfold Int.ModEq at hmod
  omega

/-! ## The order of updates -/

lemma Counters.modify_comm (c : Counters) (k l : Counter) {f g : UInt64 → UInt64}
    (hfg : ∀ n, f (g n) = g (f n)) : (c.modify k f).modify l g = (c.modify l g).modify k f := by
  cases k <;> cases l <;> simp only [Counters.modify, hfg]

lemma Counters.update_comm (c : Counters) (u v : Update) :
    (c.update u).update v = (c.update v).update u := by
  cases u <;> cases v <;> simp only [Counters.update]
  all_goals exact c.modify_comm _ _ fun _ => by grind

instance : RightCommutative Counters.update := ⟨Counters.update_comm⟩

lemma Counters.foldl_record (es : List Event) (c : Counters) :
    es.foldl record c = (es.flatMap Event.updates).foldl update c := by
  rw [List.foldl_flatMap]
  rfl

/-! ## One block -/

/-- How far a block has come. -/
inductive Stage
  /-- It has not been handed out. -/
  | unborn
  /-- It is in use. -/
  | live (length : UInt64)
  /-- It has been given back. -/
  | gone

/-- What may happen to a block, and how far it comes with it.  It is handed out first and given back
last, and what is said of its length in between is true. -/
inductive Stage.Follows : Stage → Event → Stage → Prop
  | allocated (length : UInt64) : Follows .unborn (.allocated length) (.live length)
  | reallocated (old new : UInt64) : Follows (.live old) (.reallocated old new) (.live new)
  | freed (length : UInt64) : Follows (.live length) (.freed length) .gone

/-- What a block that has come so far is worth to a counter. -/
def Stage.settled : Stage → Counter → Int
  | .live _, .liveBlocks => 1
  | .live length, .liveBytes => length.toNat
  | _, _ => 0

/-- A block, at some moment. -/
structure Course where
  /-- How far it comes with its last event. -/
  stage : Stage
  /-- The updates of its last event that have still to be made. -/
  pending : List Update

/-- What a block has put into a counter so far. -/
def Course.share (c : Course) (which : Counter) : Int :=
  c.stage.settled which - net which c.pending

/-- The updates to be made are the last ones of an event. -/
def Course.Valid (c : Course) : Prop :=
  c.pending = [] ∨ ∃ s e, Stage.Follows s e c.stage ∧ c.pending <:+ e.updates

/-- What holds of a block at every moment, after its events and the updates that it has made. -/
structure Course.Accounts (c : Course) (events : List Event) (made : List Update) : Prop where
  /-- What it has made and what it has still to make are the updates of its events. -/
  updates : made ++ c.pending = events.flatMap Event.updates
  /-- It has put its share into each counter that also shrinks. -/
  share (which : Counter) (hgauge : which.isGauge) : net which made = c.share which
  /-- It has only updates of its last event to make. -/
  valid : c.Valid

section

variable {s s' : Stage} {e : Event} {which : Counter} {c : Course} {events : List Event}
  {u : Update} {made rest : List Update}

lemma Stage.settled_nonneg (s : Stage) (which : Counter) : 0 ≤ s.settled which := by
  cases s <;> cases which <;> simp [settled]

lemma Stage.Follows.settled (h : s.Follows e s') (hgauge : which.isGauge) :
    s'.settled which = s.settled which + net which e.updates := by
  cases h <;> cases which <;>
    simp [Stage.settled, Event.updates, Update.change, Counter.isGauge] at hgauge ⊢

/-- The last updates of an event bring no more than what is left in the end. -/
lemma Stage.Follows.net_le (h : s.Follows e s') {us : List Update} (hus : us <:+ e.updates)
    (hgauge : which.isGauge) : net which us ≤ s'.settled which := by
  -- each event has three updates, so there are four moments to look at
  cases h <;> simp only [Event.updates, List.suffix_cons_iff, List.suffix_nil] at hus
  all_goals
    rcases hus with rfl | rfl | rfl | rfl <;> cases which <;>
      simp [Stage.settled, Update.change, Counter.isGauge] at hgauge ⊢

lemma Course.Valid.share_nonneg (h : c.Valid) (hgauge : which.isGauge) : 0 ≤ c.share which := by
  rw [share]
  rcases h with hdone | ⟨s, e, hfollows, hsuffix⟩
  · rw [hdone, net_nil, Int.sub_zero]
    exact c.stage.settled_nonneg which
  · exact Int.sub_nonneg_of_le (hfollows.net_le hsuffix hgauge)

lemma Course.accounts_unborn : Course.Accounts ⟨.unborn, []⟩ [] [] where
  updates := rfl
  share which _ := by cases which <;> rfl
  valid := .inl rfl

/-- An event begins: what it brings has still to come. -/
lemma Course.Accounts.enter (h : c.Accounts events made) (hidle : c.pending = [])
    (hfollows : c.stage.Follows e s) : Course.Accounts ⟨s, e.updates⟩ (events ++ [e]) made where
  updates := by
    have hupdates := h.updates
    rw [hidle, List.append_nil] at hupdates
    rw [List.flatMap_append, List.flatMap_singleton, hupdates]
  share which hgauge := by
    have hshare := h.share which hgauge
    have hsettled := hfollows.settled hgauge
    rw [Course.share, hidle, net_nil] at hshare
    simp only [Course.share]
    omega
  valid := .inr ⟨c.stage, e, hfollows, List.suffix_rfl⟩

lemma Course.Accounts.perform (h : c.Accounts events made) (hnext : c.pending = u :: rest) :
    Course.Accounts ⟨c.stage, rest⟩ events (made ++ [u]) where
  updates := by
    rw [← h.updates, hnext, List.append_assoc, List.singleton_append]
  share which hgauge := by
    have hshare := h.share which hgauge
    rw [Course.share, hnext, net_cons] at hshare
    simp only [Course.share, net_append, net_cons, net_nil]
    omega
  valid := by
    rcases h.valid with hdone | ⟨s, e, hfollows, hsuffix⟩
    · rw [hnext] at hdone
      cases hdone
    · exact .inr ⟨s, e, hfollows, .trans ⟨[u], hnext.symm⟩ hsuffix⟩

end

/-! ## What belongs to one block -/

section

variable {ι α : Type*}

/-- The updates of some events, one event at a time. -/
def recording (events : List (ι × Event)) : List (ι × Update) :=
  events.flatMap fun p => p.2.updates.map (Prod.mk p.1)

lemma map_recording (events : List (ι × Event)) :
    (recording events).map (·.2) = (events.map (·.2)).flatMap Event.updates := by
  simp [recording, List.map_flatMap, List.flatMap_map, Function.comp_def]

variable [DecidableEq ι]

/-- What belongs to one block, in order. -/
def history (x : ι) (l : List (ι × α)) : List α := (l.filter (·.1 = x)).map (·.2)

@[simp] lemma history_nil (x : ι) : history x ([] : List (ι × α)) = [] := rfl

lemma history_cons (x : ι) (p : ι × α) (l : List (ι × α)) :
    history x (p :: l) = if p.1 = x then p.2 :: history x l else history x l := by
  unfold history
  rw [List.filter_cons]
  by_cases hp : p.1 = x
  · rw [if_pos hp, if_pos (decide_eq_true hp), List.map_cons]
  · rw [if_neg hp, if_neg (by simpa using hp)]

lemma history_append (x : ι) (l m : List (ι × α)) :
    history x (l ++ m) = history x l ++ history x m := by
  rw [history, List.filter_append, List.map_append, history, history]

lemma history_concat_self (x : ι) (a : α) (l : List (ι × α)) :
    history x (l ++ [(x, a)]) = history x l ++ [a] := by
  rw [history_append, history_cons, if_pos rfl, history_nil]

lemma history_concat_of_ne {x y : ι} (h : y ≠ x) (a : α) (l : List (ι × α)) :
    history x (l ++ [(y, a)]) = history x l := by
  rw [history_append, history_cons, if_neg h, history_nil, List.append_nil]

/-- Everything together is what belongs to the single blocks. -/
lemma net_eq_sum_history (which : Counter) {l : List (ι × Update)} {s : Finset ι}
    (hs : ∀ p ∈ l, p.1 ∈ s) : net which (l.map (·.2)) = ∑ x ∈ s, net which (history x l) := by
  induction l with
  | nil => simp
  | cons p l ih =>
    have hp : p.1 ∈ s := hs p List.mem_cons_self
    have hhead (x : ι) : net which (history x (p :: l)) =
        (if p.1 = x then p.2.change which else 0) + net which (history x l) := by
      rw [history_cons]
      split
      · rw [net_cons]
      · rw [Int.zero_add]
    simp only [hhead, Finset.sum_add_distrib, Finset.sum_ite_eq, if_pos hp]
    rw [List.map_cons, net_cons, ih fun q hq => hs q (List.mem_cons_of_mem p hq)]

lemma count_history [DecidableEq α] (x : ι) (a : α) (l : List (ι × α)) :
    (history x l).count a = l.count (x, a) := by
  induction l with
  | nil => rfl
  | cons p l ih =>
    obtain ⟨y, b⟩ := p
    rw [history_cons, List.count_cons, ← ih]
    by_cases hy : y = x
    · subst hy
      simp [List.count_cons]
    · simp [hy]

/-- Two lists that agree for each block differ in their order only. -/
lemma perm_of_history_eq [DecidableEq α] {l m : List (ι × α)}
    (h : ∀ x, history x l = history x m) : l.Perm m := by
  rw [List.perm_iff_count]
  rintro ⟨x, a⟩
  rw [← count_history, ← count_history, h x]

lemma history_map_mk (x y : ι) (as : List α) :
    history x (as.map (Prod.mk y)) = if y = x then as else [] := by
  induction as with
  | nil => rw [List.map_nil, history_nil, ite_self]
  | cons a as ih =>
    rw [List.map_cons, history_cons, ih]
    split <;> rfl

lemma history_recording (x : ι) (events : List (ι × Event)) :
    history x (recording events) = (history x events).flatMap Event.updates := by
  induction events with
  | nil => rfl
  | cons p events ih =>
    rw [recording, List.flatMap_cons, history_append, ← recording, ih, history_map_mk,
      history_cons]
    split
    · rw [List.flatMap_cons]
    · rw [List.nil_append]

end

/-! ## All blocks -/

/-- The counters, and the blocks whose events are recorded. -/
structure Traffic (ι : Type*) where
  /-- The counters, which all blocks share. -/
  counters : Counters
  /-- The updates so far and whose they are, in order. -/
  made : List (ι × Update)
  /-- The events so far and whose they are, in the order in which they have begun. -/
  began : List (ι × Event)
  /-- How far each block is. -/
  course : ι → Course

namespace Traffic

variable {ι : Type*}

/-- The traffic before anything has happened. -/
def start : Traffic ι := ⟨.zero, [], [], fun _ => ⟨.unborn, []⟩⟩

/-- All updates so far. -/
def updates (t : Traffic ι) : List Update := t.made.map (·.2)

/-- No event is in progress. -/
def Idle (t : Traffic ι) : Prop := ∀ x, (t.course x).pending = []

/-- The total of no counter that also shrinks has ever been too large for a word. -/
def Bounded (t : Traffic ι) : Prop :=
  ∀ past, past <+: t.updates → ∀ which : Counter, which.isGauge → net which past < 2 ^ 64

variable {t t' : Traffic ι}

lemma Bounded.of_append {us : List Update} (h : t'.Bounded) (hus : t'.updates = t.updates ++ us) :
    t.Bounded :=
  fun past hpast => h past (hpast.trans (hus ▸ List.prefix_append _ _))

variable [DecidableEq ι]

/-- An event of a block begins, with which the block will have come to `stage`. -/
def enter (t : Traffic ι) (x : ι) (e : Event) (stage : Stage) : Traffic ι :=
  { t with
    began := t.began ++ [(x, e)]
    course := Function.update t.course x ⟨stage, e.updates⟩ }

/-- A block makes an update, behind which `rest` is still to be made. -/
def perform (t : Traffic ι) (x : ι) (u : Update) (rest : List Update) : Traffic ι :=
  { t with
    counters := t.counters.update u
    made := t.made ++ [(x, u)]
    course := Function.update t.course x ⟨(t.course x).stage, rest⟩ }

/-- What may happen next. -/
inductive Step (t : Traffic ι) : Traffic ι → Prop
  /-- The next event of a block begins, once the last one has been recorded. -/
  | enter {x : ι} {e : Event} {stage : Stage} (hidle : (t.course x).pending = [])
      (hfollows : (t.course x).stage.Follows e stage) : Step t (t.enter x e stage)
  /-- A block makes the next update of its event. -/
  | perform {x : ι} {u : Update} {rest : List Update} (hnext : (t.course x).pending = u :: rest) :
      Step t (t.perform x u rest)

/-- What some order of steps leads to. -/
inductive Reached : Traffic ι → Prop
  | start : Reached start
  | step {t t' : Traffic ι} (h : Reached t) (hstep : t.Step t') : Reached t'

/-- What holds of the counters and of each block at every moment. -/
structure Accounted (t : Traffic ι) : Prop where
  /-- The counters have seen the updates so far. -/
  counters : t.counters = t.updates.foldl Counters.update .zero
  /-- What each block has made and has still to make goes with its events. -/
  course (x : ι) : (t.course x).Accounts (history x t.began) (history x t.made)

lemma accounted_start : (start : Traffic ι).Accounted := ⟨rfl, fun _ => Course.accounts_unborn⟩

lemma updates_perform (t : Traffic ι) (x : ι) (u : Update) (rest : List Update) :
    (t.perform x u rest).updates = t.updates ++ [u] := List.map_append

lemma Accounted.enter (h : t.Accounted) {x : ι} {e : Event} {stage : Stage}
    (hidle : (t.course x).pending = []) (hfollows : (t.course x).stage.Follows e stage) :
    (t.enter x e stage).Accounted where
  counters := h.counters
  course y := by
    by_cases hxy : x = y
    · subst hxy
      simp only [Traffic.enter, Function.update_self, history_concat_self]
      exact (h.course x).enter hidle hfollows
    · simp only [Traffic.enter, Function.update_of_ne (Ne.symm hxy), history_concat_of_ne hxy]
      exact h.course y

lemma Accounted.perform (h : t.Accounted) {x : ι} {u : Update} {rest : List Update}
    (hnext : (t.course x).pending = u :: rest) : (t.perform x u rest).Accounted where
  counters := by
    rw [updates_perform, List.foldl_append, ← h.counters]
    rfl
  course y := by
    by_cases hxy : x = y
    · subst hxy
      simp only [Traffic.perform, Function.update_self, history_concat_self]
      exact (h.course x).perform hnext
    · simp only [Traffic.perform, Function.update_of_ne (Ne.symm hxy), history_concat_of_ne hxy]
      exact h.course y

lemma Accounted.step (h : t.Accounted) (hstep : t.Step t') : t'.Accounted := by
  cases hstep with
  | enter hidle hfollows => exact h.enter hidle hfollows
  | perform hnext => exact h.perform hnext

lemma Reached.accounted (h : t.Reached) : t.Accounted := by
  induction h with
  | start => exact accounted_start
  | step _ hstep ih => exact ih.step hstep

/-- The total of a counter that also shrinks is what all blocks have put into it. -/
lemma Accounted.net_eq_sum_share (h : t.Accounted) {which : Counter} (hgauge : which.isGauge) :
    net which t.updates = ∑ x ∈ (t.made.map (·.1)).toFinset, (t.course x).share which := by
  rw [Traffic.updates, net_eq_sum_history which fun p hp =>
    List.mem_toFinset.2 (List.mem_map_of_mem hp)]
  exact Finset.sum_congr rfl fun x _ => (h.course x).share which hgauge

lemma Accounted.net_nonneg (h : t.Accounted) {which : Counter} (hgauge : which.isGauge) :
    0 ≤ net which t.updates := by
  rw [h.net_eq_sum_share hgauge]
  exact Finset.sum_nonneg fun x _ => (h.course x).valid.share_nonneg hgauge

lemma Accounted.get_eq (h : t.Accounted) {which : Counter} (hgauge : which.isGauge)
    (hlt : net which t.updates < 2 ^ 64) :
    ((t.counters.get which).toNat : Int) = net which t.updates := by
  rw [h.counters]
  exact Counters.toNat_foldl_eq_net (h.net_nonneg hgauge) hlt

/-- An update between two totals that are words wraps no counter that also shrinks. -/
lemma Accounted.exact (h : t.Accounted) (h' : t'.Accounted) {u : Update}
    (hu : t'.updates = t.updates ++ [u]) (hb : t'.Bounded) : u.Exact t.counters := by
  have hbefore (which : Counter) (hgauge : which.isGauge) :=
    h.get_eq hgauge (hb.of_append hu _ List.prefix_rfl which hgauge)
  have hafter (which : Counter) :
      net which t'.updates = net which t.updates + u.change which := by
    rw [hu, net_append, net_cons, net_nil, Int.add_zero]
  cases u with
  | add which n =>
    intro hgauge
    have hlt := hb _ List.prefix_rfl which hgauge
    rw [hafter which, ← hbefore which hgauge, Update.change, if_pos rfl] at hlt
    omega
  | subtract which n =>
    intro hgauge
    have hpos := h'.net_nonneg hgauge
    rw [hafter which, ← hbefore which hgauge, Update.change, if_pos rfl] at hpos
    omega

/-- No update has wrapped a counter that also shrinks. -/
lemma Reached.noWrap (h : t.Reached) (hb : t.Bounded) : NoWrap .zero t.updates := by
  induction h with
  | start => exact trivial
  | @step t t' h hstep ih =>
    have haccounted := h.accounted
    have haccounted' := haccounted.step hstep
    cases hstep with
    | enter _ _ => exact ih hb
    | @perform x u rest hnext =>
      have hu := t.updates_perform x u rest
      have hexact := haccounted.exact haccounted' hu hb
      rw [hu]
      refine noWrap_append.2 ⟨ih (hb.of_append hu), ?_, trivial⟩
      rw [← haccounted.counters]
      exact hexact

/-- Once no event is in progress, the counters are those of the events one at a time. -/
lemma Accounted.counters_eq (h : t.Accounted) (hidle : t.Idle) {order : List (ι × Event)}
    (horder : ∀ x, history x order = history x t.began) :
    t.counters = (order.map (·.2)).foldl Counters.record .zero := by
  have hmade : t.made.Perm (recording order) := by
    refine perm_of_history_eq fun x => ?_
    have hx := (h.course x).updates
    rw [hidle x, List.append_nil] at hx
    rw [hx, history_recording, horder]
  calc t.counters = t.updates.foldl Counters.update .zero := h.counters
    _ = ((recording order).map (·.2)).foldl Counters.update .zero := (hmade.map _).foldl_eq _
    _ = (order.map (·.2)).foldl Counters.record .zero := by
      rw [map_recording, Counters.foldl_record]

/-- Whatever order the updates of concurrent events are made in, the counters that also shrink never
wrap if their totals are words, and they show these totals at every moment.  Once no event is in
progress, all counters are those of the events one at a time, in any order that keeps the events of
each block in theirs. -/
theorem Reached.counters_interleaved (h : t.Reached) :
    (t.Bounded → NoWrap .zero t.updates ∧ ∀ which : Counter, which.isGauge →
        ((t.counters.get which).toNat : Int) = net which t.updates) ∧
      (t.Idle → ∀ order : List (ι × Event), (∀ x, history x order = history x t.began) →
        t.counters = (order.map (·.2)).foldl Counters.record .zero) := by
  refine ⟨fun hb => ⟨h.noWrap hb, fun which hgauge => ?_⟩, fun hidle order horder => ?_⟩
  · exact h.accounted.get_eq hgauge (hb _ List.prefix_rfl which hgauge)
  · exact h.accounted.counters_eq hidle horder

/-- Two blocks: while one changes its length, the other is handed out. -/
theorem Reached.counters_interleaved_two : ∃ t : Traffic ℕ, t.Reached ∧
    t.updates =
      [.add .allocations 1, .add .liveBlocks 1, .add .liveBytes 4, .add .reallocations 1,
        .add .allocations 1, .add .liveBytes 6, .add .liveBlocks 1, .subtract .liveBytes 4,
        .add .liveBytes 2] ∧
    t.Bounded ∧ t.Idle ∧ NoWrap .zero t.updates ∧
    t.counters =
      [.allocated 4, .allocated 2, .reallocated 4 6].foldl Counters.record .zero := by
  have h : (Traffic.start : Traffic ℕ).Reached := .start
  have h := h.step (.enter (x := 0) rfl (.allocated 4))
  have h := h.step (.perform (x := 0) rfl)
  have h := h.step (.perform (x := 0) rfl)
  have h := h.step (.perform (x := 0) rfl)
  have h := h.step (.enter (x := 0) rfl (.reallocated 4 6))
  have h := h.step (.perform (x := 0) rfl)
  have h := h.step (.enter (x := 1) rfl (.allocated 2))
  have h := h.step (.perform (x := 1) rfl)
  have h := h.step (.perform (x := 0) rfl)
  have h := h.step (.perform (x := 1) rfl)
  have h := h.step (.perform (x := 0) rfl)
  have h := h.step (.perform (x := 1) rfl)
  refine ⟨_, h, rfl, ?bounded, ?idle, (h.counters_interleaved.1 ?bounded).1,
    h.counters_interleaved.2 ?idle [(0, .allocated 4), (1, .allocated 2), (0, .reallocated 4 6)]
      ?order⟩
  case bounded =>
    intro past hpast which hgauge
    rw [← List.mem_inits] at hpast
    revert past
    match which, hgauge with
    | .liveBlocks, _ => decide
    | .liveBytes, _ => decide
  case idle => exact fun | 0 | 1 | _ + 2 => rfl
  case order => exact fun | 0 | 1 | _ + 2 => rfl

end Traffic

end RuntimeSupport.Memory

import Mathlib.Algebra.GroupWithZero.Nat
import Mathlib.Tactic.Lemma
import RuntimeSupport.Table

/-!
# Totals over a table

A table can be summed up by giving a weight to each of its values.  `Table.total_set` and
`Table.total_erase` say how the total moves when an entry comes, goes or is replaced: only the entry
under that key counts.  No subtraction occurs, so the statements hold for natural numbers as they
are.
-/

namespace RuntimeSupport.Table

variable {κ α : Type} [DecidableEq κ]

/-- The sum of the weights of all values. -/
def total (f : α → Nat) (t : Table κ α) : Nat := (t.entries.map fun e => f e.2).sum

/-- The weight of the value under a key, and zero if there is none. -/
def weight (f : α → Nat) (t : Table κ α) (k : κ) : Nat := (t.get? k).elim 0 f

lemma get?_set_self (t : Table κ α) (k : κ) (v : α) : (t.set k v).get? k = some v := by
  rw [get?_set, if_pos rfl]

lemma weight_of_some {f : α → Nat} {t : Table κ α} {k : κ} {v : α} (h : t.get? k = some v) :
    t.weight f k = f v := by
  rw [weight, h, Option.elim_some]

lemma weight_of_none {f : α → Nat} {t : Table κ α} {k : κ} (h : t.get? k = none) :
    t.weight f k = 0 := by
  rw [weight, h, Option.elim_none]

lemma lookup_eq_none_of_forall_ne {es : List (κ × α)} {k : κ} (h : ∀ e ∈ es, k ≠ e.1) :
    es.lookup k = none :=
  List.lookup_eq_none_iff.2 fun e he => bne_iff_ne.2 (h e he)

/-- Filtering a key out of entries with distinct keys takes away the weight of its value. -/
lemma sum_filter_ne (f : α → Nat) (k : κ) {es : List (κ × α)}
    (h : es.Pairwise fun a b => a.1 ≠ b.1) :
    ((es.filter (·.1 ≠ k)).map fun e => f e.2).sum + (es.lookup k).elim 0 f =
      (es.map fun e => f e.2).sum := by
  induction es with
  | nil => rfl
  | cons e es ih =>
    obtain ⟨j, v⟩ := e
    obtain ⟨hj, hrest⟩ := List.pairwise_cons.1 h
    have hsum := ih hrest
    rw [lookup_cons_eq_ite, List.filter_cons]
    by_cases hk : k = j
    · subst hk
      -- the key is not there a second time, so nothing else goes
      have hnone : es.lookup k = none := lookup_eq_none_of_forall_ne hj
      rw [hnone, Option.elim_none, Nat.add_zero] at hsum
      rw [if_neg (by simp), if_pos rfl, hsum, Option.elim_some, List.map_cons, List.sum_cons,
        Nat.add_comm]
    · rw [if_pos (by simpa using Ne.symm hk), if_neg hk, List.map_cons, List.map_cons,
        List.sum_cons, List.sum_cons, Nat.add_assoc, hsum]

theorem total_erase (f : α → Nat) (t : Table κ α) (k : κ) :
    (t.erase k).total f + t.weight f k = t.total f :=
  sum_filter_ne f k t.distinct

theorem total_set (f : α → Nat) (t : Table κ α) (k : κ) (v : α) :
    (t.set k v).total f + t.weight f k = t.total f + f v := by
  have hset : (t.set k v).total f = f v + (t.erase k).total f := by
    simp only [total, set, List.map_cons, List.sum_cons]
  rw [hset, ← t.total_erase f k]
  omega

/-- A value that is set again replaces the first one, without a trace of it. -/
lemma set_set (t : Table κ α) (k : κ) (v w : α) : (t.set k v).set k w = t.set k w := by
  have hentries : (t.erase k).entries.filter (·.1 ≠ k) = (t.erase k).entries := by
    simp only [erase, List.filter_filter, Bool.and_self]
  simp only [set, erase, Table.mk.injEq, List.cons.injEq, true_and]
  rw [List.filter_cons, if_neg (by simp)]
  exact hentries

end RuntimeSupport.Table

/-!
Tables: finitely many entries, each with a key of its own.

The main statements say what each operation does to a look-up: `get?_set`, `get?_erase`.
-/

namespace RuntimeSupport

/-- Entries under distinct keys, the one set last in front. -/
structure Table (κ α : Type) where
  /-- The entries. -/
  entries : List (κ × α)
  /-- No two entries share a key. -/
  distinct : entries.Pairwise fun a b => a.1 ≠ b.1

namespace Table

variable {κ α : Type} [DecidableEq κ]

/-- The table without entries. -/
def empty : Table κ α := ⟨[], .nil⟩

/-- The value under a key, if there is an entry for it. -/
def get? (t : Table κ α) (k : κ) : Option α := t.entries.lookup k

/-- The table without the entry for a key. -/
def erase (t : Table κ α) (k : κ) : Table κ α :=
  ⟨t.entries.filter (·.1 ≠ k), t.distinct.filter _⟩

/-- The table with a value under a key, in place of any that was there. -/
def set (t : Table κ α) (k : κ) (v : α) : Table κ α :=
  ⟨(k, v) :: (t.erase k).entries,
    .cons (fun _ he => Ne.symm (of_decide_eq_true (List.mem_filter.1 he).2)) (t.erase k).distinct⟩

theorem lookup_cons_eq_ite (es : List (κ × α)) (k j : κ) (v : α) :
    ((k, v) :: es).lookup j = if j = k then some v else es.lookup j := by
  rw [List.lookup_cons]
  by_cases h : j = k
  · simp [h]
  · rw [beq_eq_false_iff_ne.2 h, if_neg h]

theorem lookup_filter_ne (es : List (κ × α)) (k j : κ) :
    (es.filter (·.1 ≠ k)).lookup j = if j = k then none else es.lookup j := by
  induction es with
  | nil => simp
  | cons e es ih =>
    obtain ⟨i, v⟩ := e
    rw [lookup_cons_eq_ite, List.filter_cons]
    by_cases hi : i = k
    · rw [if_neg (by simp [hi]), ih]
      by_cases hj : j = k
      · simp [hj]
      · simp [hj, hi]
    · rw [if_pos (by simp [hi]), lookup_cons_eq_ite, ih]
      by_cases hj : j = i
      · simp [hj, hi]
      · simp [hj]

@[simp] theorem get?_empty (k : κ) : (empty : Table κ α).get? k = none := rfl

@[simp] theorem get?_erase (t : Table κ α) (k j : κ) :
    (t.erase k).get? j = if j = k then none else t.get? j :=
  lookup_filter_ne t.entries k j

@[simp] theorem get?_set (t : Table κ α) (k j : κ) (v : α) :
    (t.set k v).get? j = if j = k then some v else t.get? j := by
  have he := t.get?_erase k j
  unfold get? at he ⊢
  rw [set, lookup_cons_eq_ite, he]
  by_cases h : j = k <;> simp [h]

end Table

end RuntimeSupport

import Mathlib.Data.List.TakeWhile
import Mathlib.Tactic.Lemma
import RuntimeSupport.Text.Blank

/-!
# Blanks at the ends of a text

A text is a core with blanks before and after it, where the core itself neither starts nor ends with
a blank (`Strips`).  There is exactly one such core, and trimming finds it (`strips_iff`); so blanks
that are put around a text make no difference to it (`trim_around`).
-/

namespace RuntimeSupport.Text

/-- A text of blanks only. -/
def AllBlank (s : String) : Prop := ∀ c ∈ s.toList, isBlank c = true

/-- A text neither starts nor ends with a blank. -/
structure Bare (s : String) : Prop where
  first : ∀ c ∈ s.toList.head?, isBlank c = false
  last : ∀ c ∈ s.toList.getLast?, isBlank c = false

/-- A text is a bare core with blanks before and after it. -/
def Strips (text core : String) : Prop :=
  Bare core ∧ ∃ before after, AllBlank before ∧ AllBlank after ∧ text = before ++ core ++ after

variable {cs before after : List Char} {text core : String}

/-! ## Lists of characters -/

lemma dropWhile_of_head? (h : ∀ c ∈ cs.head?, isBlank c = false) : cs.dropWhile isBlank = cs := by
  cases cs with
  | nil => rfl
  | cons c cs => rw [List.dropWhile_cons, if_neg (by simp [h c rfl])]

lemma head?_dropWhile (cs : List Char) :
    ∀ c ∈ (cs.dropWhile isBlank).head?, isBlank c = false := by
  intro c hc
  have hnot := List.head?_dropWhile_not isBlank cs
  rw [Option.mem_def.1 hc] at hnot
  exact hnot

lemma trimList_append_left (h : ∀ c ∈ before, isBlank c = true) :
    trimList (before ++ cs) = trimList cs := by
  rw [trimList, List.dropWhile_append_of_pos h, trimList]

lemma trimList_append_right (h : ∀ c ∈ after, isBlank c = true) :
    trimList (cs ++ after) = trimList cs := by
  have hreverse : ∀ c ∈ after.reverse, isBlank c = true := fun c hc => h c (List.mem_reverse.1 hc)
  rw [trimList, trimList, List.dropWhile_append]
  split
  · -- nothing but blanks on either side
    next hnil =>
    rw [List.isEmpty_iff.1 hnil, List.dropWhile_eq_nil_iff.2 h]
  · rw [List.reverse_append, List.dropWhile_append_of_pos hreverse]

lemma trimList_of_bare (h : Bare text) : trimList text.toList = text.toList := by
  have hlast : ∀ c ∈ text.toList.reverse.head?, isBlank c = false := by
    rw [List.head?_reverse]
    exact h.last
  rw [trimList, dropWhile_of_head? h.first, dropWhile_of_head? hlast, List.reverse_reverse]

/-- What is trimmed off the end stands behind what is left. -/
lemma exists_trimmed (cs : List Char) :
    ∃ after, (∀ c ∈ after, isBlank c = true) ∧ cs.dropWhile isBlank = trimList cs ++ after := by
  refine ⟨((cs.dropWhile isBlank).reverse.takeWhile isBlank).reverse,
    fun c hc => List.mem_takeWhile_imp (List.mem_reverse.1 hc), ?_⟩
  rw [trimList, ← List.reverse_append, List.takeWhile_append_dropWhile, List.reverse_reverse]

/-! ## Texts -/

lemma toList_trim (s : String) : (trim s).toList = trimList s.toList := by
  rw [trim, String.toList_ofList]

lemma bare_trim (s : String) : Bare (trim s) := by
  -- the start of what is left after the front is trimmed stays, unless nothing stays
  have hfirst : ∀ c ∈ (trimList s.toList).head?, isBlank c = false := by
    intro c hc
    obtain ⟨after, -, hsplit⟩ := exists_trimmed s.toList
    refine head?_dropWhile s.toList c ?_
    rw [hsplit, List.head?_append, Option.mem_def.1 hc]
    rfl
  have hlast : ∀ c ∈ (trimList s.toList).getLast?, isBlank c = false := by
    rw [trimList, List.getLast?_reverse]
    exact head?_dropWhile _
  refine ⟨?_, ?_⟩
  · rw [toList_trim]
    exact hfirst
  · rw [toList_trim]
    exact hlast

lemma trim_around {before after : String} (hbefore : AllBlank before) (hafter : AllBlank after)
    (s : String) : trim (before ++ s ++ after) = trim s := by
  rw [← String.toList_inj, toList_trim, toList_trim, String.toList_append, String.toList_append,
    trimList_append_right hafter, trimList_append_left hbefore]

lemma trim_of_bare (h : Bare text) : trim text = text := by
  rw [← String.toList_inj, toList_trim, trimList_of_bare h]

lemma strips_trim (s : String) : Strips s (trim s) := by
  obtain ⟨after, hafter, hsplit⟩ := exists_trimmed s.toList
  refine ⟨bare_trim s, String.ofList (s.toList.takeWhile isBlank), String.ofList after, ?_, ?_, ?_⟩
  · rw [AllBlank, String.toList_ofList]
    exact fun c hc => List.mem_takeWhile_imp hc
  · rw [AllBlank, String.toList_ofList]
    exact hafter
  · rw [← String.toList_inj, String.toList_append, String.toList_append, String.toList_ofList,
      String.toList_ofList, toList_trim, List.append_assoc, ← hsplit,
      List.takeWhile_append_dropWhile]

/-- Trimming finds the core of a text, and there is no other. -/
theorem strips_iff : Strips text core ↔ core = trim text := by
  constructor
  · rintro ⟨hbare, before, after, hbefore, hafter, rfl⟩
    rw [trim_around hbefore hafter, trim_of_bare hbare]
  · rintro rfl
    exact strips_trim text

end RuntimeSupport.Text

import Mathlib.Tactic.Lemma

/-!
# Outcomes of actions that may fail

Actions are put together with `>>=`; these lemmas take them apart again, one at a time.
-/

namespace RuntimeSupport

variable {ε α β : Type}

/-- An action that goes on with the answer of another succeeds exactly if both do. -/
lemma bind_eq_ok {act : Except ε α} {next : α → Except ε β} {b : β} :
    act >>= next = .ok b ↔ ∃ a, act = .ok a ∧ next a = .ok b := by
  cases act with
  | error e => simp [bind, Except.bind]
  | ok a => simp [bind, Except.bind]

lemma pure_eq_ok {a b : α} : (pure a : Except ε α) = .ok b ↔ a = b :=
  Except.ok.injEq a b ▸ Iff.rfl

lemma toOption_eq_some_iff {r : Except ε α} {a : α} : r.toOption = some a ↔ r = .ok a := by
  cases r <;> simp [Except.toOption]

/-- An action succeeds exactly under a condition without which it is known to fail. -/
lemma exists_ok_iff {r : Except ε α} {P : Prop} (hok : P → ∃ a, r = .ok a)
    (herror : ¬P → ∃ e, r = .error e) : (∃ a, r = .ok a) ↔ P := by
  by_cases h : P
  · exact iff_of_true (hok h) h
  · obtain ⟨e, he⟩ := herror h
    simp [he, h]

end RuntimeSupport

/-!
The parts of a text between separators.  `join_split` says that putting the separators back between
the parts gives the text.
-/

namespace RuntimeSupport.Text

/-- The parts of a text between separators.  There is one more of them than there are separators. -/
def split {α : Type} [DecidableEq α] (separator : α) : List α → List (List α)
  | [] => [[]]
  | a :: as =>
    match split separator as with
    | [] => [[]]
    | part :: parts => if a = separator then [] :: part :: parts else (a :: part) :: parts

/-- The text whose parts are given. -/
def join {α : Type} (separator : α) : List (List α) → List α
  | [] => []
  | [part] => part
  | part :: parts => part ++ separator :: join separator parts

theorem split_ne_nil {α : Type} [DecidableEq α] (separator : α) (as : List α) :
    split separator as ≠ [] := by
  cases as with
  | nil => simp [split]
  | cons a as =>
    rw [split]
    split
    · simp
    · split <;> simp

theorem join_split {α : Type} [DecidableEq α] (separator : α) (as : List α) :
    join separator (split separator as) = as := by
  induction as with
  | nil => rfl
  | cons a as ih =>
    rw [split]
    split
    · next h => exact absurd h (split_ne_nil separator as)
    · next part parts h =>
      rw [h] at ih
      split
      · next ha => simp [join, ih, ha]
      · cases parts with
        | nil => simpa [join] using ih
        | cons p ps => simpa [join] using ih

end RuntimeSupport.Text

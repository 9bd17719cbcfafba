import RuntimeSupport.Word

/-!
Regions of a byte sequence.  Reading takes the bytes of a region and writing replaces them; the
length of the sequence never changes as long as the region lies inside it.
-/

namespace RuntimeSupport

/-- The length of a byte sequence as a word.  One that does not fit counts as the largest word, so
that it never passes for a short one. -/
def Word.ofLength (bs : Bytes) : UInt64 := Word.saturate bs.length

theorem Word.toNat_ofLength (bs : Bytes) :
    (Word.ofLength bs).toNat = min bs.length 0xFFFF_FFFF_FFFF_FFFF :=
  Word.toNat_saturate bs.length

namespace Region

/-- The `count` bytes that start at `offset`. -/
def read (bs : Bytes) (offset count : Nat) : Bytes := (bs.drop offset).take count

/-- The bytes with those from `offset` on replaced by new ones. -/
def write (bs : Bytes) (offset : Nat) (new : Bytes) : Bytes :=
  bs.take offset ++ new ++ bs.drop (offset + new.length)

/-- A sequence of `count` bytes that repeats the given ones over and over. -/
def cycle (bs : Bytes) (count : Nat) : Bytes :=
  (List.replicate (count / bs.length + 1) bs).flatten.take count

theorem length_write {bs new : Bytes} {offset : Nat} (h : offset + new.length ≤ bs.length) :
    (write bs offset new).length = bs.length := by
  simp only [write, List.length_append, List.length_take, List.length_drop]
  omega

theorem getElem?_write {bs new : Bytes} {offset : Nat} (h : offset + new.length ≤ bs.length)
    (i : Nat) :
    (write bs offset new)[i]? =
      if offset ≤ i ∧ i < offset + new.length then new[i - offset]? else bs[i]? := by
  have ht : (bs.take offset).length = offset := by rw [List.length_take]; omega
  unfold write
  by_cases h₁ : i < offset
  · have h₂ : ¬(offset ≤ i ∧ i < offset + new.length) := by omega
    rw [if_neg h₂, List.append_assoc, List.getElem?_append_left (by omega),
      List.getElem?_take_of_lt h₁]
  · rw [List.append_assoc, List.getElem?_append_right (by omega), ht]
    by_cases h₂ : i < offset + new.length
    · rw [if_pos ⟨by omega, h₂⟩, List.getElem?_append_left (by omega)]
    · rw [if_neg (by omega), List.getElem?_append_right (by omega), List.getElem?_drop]
      congr 1
      omega

end Region

end RuntimeSupport

import Mathlib.Tactic.Lemma
import RuntimeSupport.Element

/-!
# The range of an element

`Element.range` computes with words, which could wrap.  The main statement is `range_eq_ok_iff`: the
range that it answers is the one that exact numbers give, and it answers one exactly if the element
lies inside the buffer by exact numbers.
-/

namespace RuntimeSupport.Element

/-- The distance of an element from the start of its buffer. -/
def position (index elemSize : UInt64) : Nat := index.toNat * elemSize.toNat

/-- Whether an element has bytes at all and every one of them lies inside the buffer. -/
def Fits (size index elemSize : UInt64) : Prop :=
  0 < elemSize.toNat ∧ (index.toNat + 1) * elemSize.toNat ≤ size.toNat

/-- Why an element that does not fit is refused. -/
def fault (size index elemSize : UInt64) : Fault :=
  if elemSize = 0 then .zeroElementSize else .indexOutOfBounds index elemSize size

variable {size index elemSize : UInt64}

lemma fault_eq_zeroElementSize_iff :
    fault size index elemSize = .zeroElementSize ↔ elemSize = 0 := by
  unfold fault
  split
  · next h => exact iff_of_true rfl h
  · next h => exact iff_of_false (by simp) h

lemma succ_mul_eq (index elemSize : UInt64) :
    (index.toNat + 1) * elemSize.toNat = position index elemSize + elemSize.toNat :=
  Nat.succ_mul _ _

lemma toNat_pos (h : elemSize ≠ 0) : 0 < elemSize.toNat :=
  UInt64.lt_iff_toNat_lt.1 (UInt64.pos_iff_ne_zero.2 h)

lemma Fits.ne_zero (h : Fits size index elemSize) : elemSize ≠ 0 := by
  rintro rfl
  exact absurd h.1 (by decide)

lemma Fits.position_add_le (h : Fits size index elemSize) :
    position index elemSize + elemSize.toNat ≤ size.toNat := by
  rw [← succ_mul_eq]
  exact h.2

/-- Where an element that fits starts can be told by a word. -/
lemma Fits.toNat_position (h : Fits size index elemSize) :
    (UInt64.ofNat (position index elemSize)).toNat = position index elemSize := by
  have hle := h.position_add_le
  have hsize := size.toNat_lt
  exact UInt64.toNat_ofNat_of_lt' (show position index elemSize < 2 ^ 64 by omega)

/-- The end of an element, unless it does not fit a word. -/
lemma stop_eq_some_iff (h : elemSize ≠ 0) {stop : UInt64} :
    (Word.add? index 1).bind (Word.mul? · elemSize) = some stop ↔
      (index.toNat + 1) * elemSize.toNat = stop.toNat := by
  have hone : (1 : UInt64).toNat = 1 := rfl
  constructor
  · intro hstop
    obtain ⟨n, hn, hmul⟩ := Option.bind_eq_some_iff.1 hstop
    rw [Word.add?_eq_some_iff, hone] at hn
    rw [hn]
    exact Word.mul?_eq_some_iff.1 hmul
  · intro hstop
    -- a factor of what fits a word fits a word, since the other factor is not zero
    have hlt : index.toNat + 1 < 2 ^ 64 := by
      have hle := Nat.le_mul_of_pos_right (index.toNat + 1) (toNat_pos h)
      have hword := stop.toNat_lt
      omega
    have hsucc : (UInt64.ofNat (index.toNat + 1)).toNat = index.toNat + 1 :=
      UInt64.toNat_ofNat_of_lt' hlt
    refine Option.bind_eq_some_iff.2 ⟨UInt64.ofNat (index.toNat + 1), ?_, ?_⟩
    · rw [Word.add?_eq_some_iff, hone, hsucc]
    · rw [Word.mul?_eq_some_iff, hsucc, hstop]

lemma range_of_not_fits (h : ¬Fits size index elemSize) :
    range size index elemSize = .error (fault size index elemSize) := by
  unfold range fault
  split
  · rfl
  next hne =>
  split
  · rfl
  next stop hsome =>
  have hstop := (stop_eq_some_iff hne).1 hsome
  refine if_neg ?_
  intro hle
  rw [UInt64.le_iff_toNat_le, ← hstop] at hle
  exact h ⟨toNat_pos hne, hle⟩

lemma range_of_fits (h : Fits size index elemSize) :
    ∃ r, range size index elemSize = .ok r ∧ r.start.toNat = position index elemSize ∧
      r.stop.toNat = (index.toNat + 1) * elemSize.toNat := by
  have hmul := succ_mul_eq index elemSize
  have hle := h.2
  have hsize := size.toNat_lt
  obtain ⟨stop, hstop⟩ : ∃ stop : UInt64, (index.toNat + 1) * elemSize.toNat = stop.toNat :=
    ⟨UInt64.ofNat _, (UInt64.toNat_ofNat_of_lt' (Nat.lt_of_le_of_lt hle hsize)).symm⟩
  have hsub : (stop - elemSize).toNat = stop.toNat - elemSize.toNat :=
    UInt64.toNat_sub_of_le stop elemSize (UInt64.le_iff_toNat_le.2 (by omega))
  refine ⟨⟨stop - elemSize, stop⟩, ?_, ?_, hstop.symm⟩
  · unfold range
    rw [if_neg h.ne_zero, (stop_eq_some_iff h.ne_zero).2 hstop]
    exact if_pos (UInt64.le_iff_toNat_le.2 (hstop ▸ hle))
  · show (stop - elemSize).toNat = position index elemSize
    omega

/-- The range of an element is the one that exact numbers give. -/
theorem range_eq_ok_iff {r : ByteRange} :
    range size index elemSize = .ok r ↔
      Fits size index elemSize ∧ r.start.toNat = position index elemSize ∧
        r.stop.toNat = (index.toNat + 1) * elemSize.toNat := by
  by_cases h : Fits size index elemSize
  · obtain ⟨r', hr, hstart, hstop⟩ := range_of_fits h
    rw [hr, Except.ok.injEq]
    constructor
    · rintro rfl
      exact ⟨h, hstart, hstop⟩
    · rintro ⟨-, hstart', hstop'⟩
      obtain ⟨start, stop⟩ := r
      obtain ⟨start', stop'⟩ := r'
      rw [ByteRange.mk.injEq, ← UInt64.toNat_inj, ← UInt64.toNat_inj]
      exact ⟨hstart.trans hstart'.symm, hstop.trans hstop'.symm⟩
  · rw [range_of_not_fits h]
    simp [h]

lemma isOk_range_iff : (∃ r, range size index elemSize = .ok r) ↔ Fits size index elemSize := by
  constructor
  · rintro ⟨r, hr⟩
    exact (range_eq_ok_iff.1 hr).1
  · intro hfits
    obtain ⟨r, hr, -⟩ := range_of_fits hfits
    exact ⟨r, hr⟩

theorem range_eq_error_iff {f : Fault} :
    range size index elemSize = .error f ↔
      ¬Fits size index elemSize ∧ f = fault size index elemSize := by
  by_cases h : Fits size index elemSize
  · obtain ⟨r, hr, -⟩ := range_of_fits h
    simp [hr, h]
  · rw [range_of_not_fits h, Except.error.injEq]
    simp [h, eq_comm]

end RuntimeSupport.Element

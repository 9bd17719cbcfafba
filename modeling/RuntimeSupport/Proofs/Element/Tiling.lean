import RuntimeSupport.Proofs.Element.Range

/-!
# Elements tile a buffer

Whether an element is found is decided by multiplying, and how many there are by dividing.  Both
come to the same (`fits_iff_lt`), and since a byte belongs to the element whose number is the
quotient of its offset (`covers_iff`), the elements of a buffer lie side by side without a gap, up
to a rest that is too short for one more.  The statement about ranges is `tiles`; what it means for
blocks is said in `RuntimeSupport.Proofs.Program.Elements`.
-/

namespace RuntimeSupport

/-- Whether a byte lies in a range. -/
def ByteRange.Covers (r : ByteRange) (k : Nat) : Prop := r.start.toNat ≤ k ∧ k < r.stop.toNat

namespace Element

/-- A buffer has `n` elements, which lie side by side from its start on, and a rest that is too
short for one more. -/
structure Tiles (size elemSize n : UInt64) : Prop where
  /-- There are elements with the numbers below `n`, and no others. -/
  found_iff : ∀ i, (∃ r, range size i elemSize = .ok r) ↔ i < n
  /-- The first one lies at the start. -/
  first : ∀ r, range size 0 elemSize = .ok r → r.start = 0
  /-- Each of the others starts where the one before it stops. -/
  next : ∀ i r r', range size i elemSize = .ok r → range size (i + 1) elemSize = .ok r' →
    r'.start = r.stop
  /-- They are all of the same length. -/
  length : ∀ i r, range size i elemSize = .ok r → r.start.toNat + elemSize.toNat = r.stop.toNat
  /-- No two of them share a byte. -/
  disjoint : ∀ i j r r' k, range size i elemSize = .ok r → range size j elemSize = .ok r' →
    r.Covers k → r'.Covers k → i = j
  /-- Together they cover as many bytes as there are in `n` elements. -/
  covered_iff : ∀ k, (∃ i r, range size i elemSize = .ok r ∧ r.Covers k) ↔
    k < n.toNat * elemSize.toNat
  /-- The buffer has as many bytes. -/
  total_le : n.toNat * elemSize.toNat ≤ size.toNat
  /-- What is behind them is too short for an element. -/
  rest_lt : size.toNat - n.toNat * elemSize.toNat < elemSize.toNat

variable {size index elemSize : UInt64} {r : ByteRange}

/-- An element fits exactly if its number is below the quotient. -/
lemma fits_iff_lt (h : elemSize ≠ 0) : Fits size index elemSize ↔ index < size / elemSize := by
  have hpos := toNat_pos h
  have hquotient : index.toNat < size.toNat / elemSize.toNat ↔
      (index.toNat + 1) * elemSize.toNat ≤ size.toNat := Nat.le_div_iff_mul_le hpos
  rw [Fits, UInt64.lt_iff_toNat_lt, UInt64.toNat_div, hquotient]
  exact and_iff_right hpos

/-- A byte belongs to the element whose number is the quotient of its offset. -/
lemma covers_iff (hr : range size index elemSize = .ok r) (k : Nat) :
    r.Covers k ↔ k / elemSize.toNat = index.toNat := by
  obtain ⟨hfits, hstart, hstop⟩ := range_eq_ok_iff.1 hr
  have hpos := hfits.1
  rw [ByteRange.Covers, hstart, hstop, succ_mul_eq, Nat.div_eq_iff hpos, position]
  omega

lemma tiles (h : elemSize ≠ 0) : Tiles size elemSize (size / elemSize) where
  found_iff i := isOk_range_iff.trans (fits_iff_lt h)
  first r hr := by
    obtain ⟨-, hstart, -⟩ := range_eq_ok_iff.1 hr
    rw [← UInt64.toNat_inj, hstart]
    exact Nat.zero_mul _
  next i r r' hr hr' := by
    obtain ⟨hfits, -, hstop⟩ := range_eq_ok_iff.1 hr
    obtain ⟨-, hstart, -⟩ := range_eq_ok_iff.1 hr'
    -- an element fits before the number of the next one could wrap
    have hsucc : (i + 1).toNat = i.toNat + 1 := by
      have hlt := UInt64.lt_iff_toNat_lt.1 ((fits_iff_lt h).1 hfits)
      have hword := (size / elemSize).toNat_lt
      rw [UInt64.toNat_add, UInt64.toNat_one]
      omega
    rw [← UInt64.toNat_inj, hstart, hstop, position, hsucc]
  length i r hr := by
    obtain ⟨-, hstart, hstop⟩ := range_eq_ok_iff.1 hr
    rw [hstart, hstop, succ_mul_eq]
  disjoint i j r r' k hr hr' hk hk' := by
    rw [covers_iff hr] at hk
    rw [covers_iff hr'] at hk'
    exact UInt64.toNat_inj.1 (hk.symm.trans hk')
  covered_iff k := by
    have hpos := toNat_pos h
    rw [← Nat.div_lt_iff_lt_mul hpos]
    constructor
    · rintro ⟨i, r, hr, hk⟩
      rw [(covers_iff hr k).1 hk]
      exact UInt64.lt_iff_toNat_lt.1 ((fits_iff_lt h).1 (isOk_range_iff.1 ⟨r, hr⟩))
    · intro hk
      have hword : (UInt64.ofNat (k / elemSize.toNat)).toNat = k / elemSize.toNat :=
        UInt64.toNat_ofNat_of_lt' (Nat.lt_trans hk (size / elemSize).toNat_lt)
      have hlt : UInt64.ofNat (k / elemSize.toNat) < size / elemSize := by
        rw [UInt64.lt_iff_toNat_lt, hword]
        exact hk
      obtain ⟨r, hr⟩ := isOk_range_iff.2 ((fits_iff_lt h).2 hlt)
      exact ⟨_, r, hr, (covers_iff hr k).2 hword.symm⟩
  total_le := by
    rw [UInt64.toNat_div]
    exact Nat.div_mul_le_self _ _
  rest_lt := by
    rw [UInt64.toNat_div, ← Nat.mod_eq_sub_div_mul]
    exact Nat.mod_lt _ (toNat_pos h)

end Element

end RuntimeSupport

import RuntimeSupport.Proofs.Format.Integer

/-!
# Numerals in a format are cut to a word

`StartsWith ds bs` says that `ds` is the longest run of decimal digits at the front of `bs`, and
`decimalValue` what digits stand for.  Reading takes exactly that run and comes to its value, or to
the largest word where the value does not fit: `readDecimal_saturates`.

Each digit costs a product and a sum, both of which saturate.  No number is cut too early by that
(`Word.toNat_saturatingAdd_saturatingMul`): what is past the largest word once stays there, since
digits only make a number greater.
-/

namespace RuntimeSupport

namespace Word

/-- The product of two words, or the largest word where it does not fit. -/
def saturatingMul (a b : UInt64) : UInt64 := saturate (a.toNat * b.toNat)

/-- The sum of two words, or the largest word where it does not fit. -/
def saturatingAdd (a b : UInt64) : UInt64 := saturate (a.toNat + b.toNat)

/-- A sum is not changed by cutting the product that goes into it. -/
lemma toNat_saturatingAdd_saturatingMul (a b c : UInt64) :
    (saturatingAdd (saturatingMul a b) c).toNat =
      min (a.toNat * b.toNat + c.toNat) 0xFFFF_FFFF_FFFF_FFFF := by
  rw [saturatingAdd, saturatingMul, toNat_saturate, toNat_saturate]
  omega

end Word

namespace Format

open Ascii

/-- The longest run of decimal digits at the front of some bytes. -/
structure StartsWith (ds bs : Bytes) : Prop where
  isPrefix : ds <+: bs
  isDigit_of_mem : ∀ d ∈ ds, isDigit d
  longest : ∀ run, run <+: bs → (∀ d ∈ run, isDigit d) → run <+: ds

/-- The number that digits stand for in base ten.  The last of them counts ones. -/
def decimalValue (ds : Bytes) : Nat := Nat.ofDigits 10 (ds.map digitValue).reverse

variable {ds bs : Bytes}

/-! ## The longest run -/

lemma startsWith_takeWhile (bs : Bytes) : StartsWith (bs.takeWhile isDigit) bs where
  isPrefix := List.takeWhile_prefix isDigit
  isDigit_of_mem _ hd := List.mem_takeWhile_imp hd
  longest run hrun hdigits := by
    obtain ⟨rest, rfl⟩ := hrun
    rw [List.takeWhile_append_of_pos hdigits]
    exact List.prefix_append run _

lemma startsWith_iff : StartsWith ds bs ↔ ds = bs.takeWhile isDigit := by
  constructor
  · intro h
    have hrun := startsWith_takeWhile bs
    -- of two longest runs each is at the front of the other
    have hle := hrun.longest ds h.isPrefix h.isDigit_of_mem
    have hge := h.longest _ hrun.isPrefix hrun.isDigit_of_mem
    exact hle.eq_of_length (Nat.le_antisymm hle.length_le hge.length_le)
  · rintro rfl
    exact startsWith_takeWhile bs

/-- Bytes go on where their run of digits ends. -/
lemma dropWhile_isDigit_eq_drop (bs : Bytes) :
    bs.dropWhile isDigit = bs.drop (bs.takeWhile isDigit).length := by
  have hdrop : (bs.takeWhile isDigit ++ bs.dropWhile isDigit).drop (bs.takeWhile isDigit).length =
      bs.dropWhile isDigit := List.drop_left
  rw [List.takeWhile_append_dropWhile] at hdrop
  exact hdrop.symm

/-! ## Digits are taken one by one -/

lemma toNat_decimalFrom_eq_min (ds : Bytes) :
    (decimalFrom 0 ds).toNat = min (decimalValue ds) (2 ^ 64 - 1) := by
  rw [toNat_decimalFrom_zero, Numeral.value_eq_ofDigits, Word.toNat_largest]
  rfl

lemma decimalFrom_eq_largest_iff :
    decimalFrom 0 ds = Word.largest ↔ 2 ^ 64 - 1 ≤ decimalValue ds := by
  rw [← UInt64.toNat_inj, toNat_decimalFrom_eq_min, Word.toNat_largest]
  omega

lemma toNat_digit {d : UInt8} (h : isDigit d) : (d - code '0').toUInt64.toNat = digitValue d := by
  have hle : code '0' ≤ d := by
    simp only [isDigit, Bool.and_eq_true, decide_eq_true_eq] at h
    exact h.1
  rw [UInt8.toNat_toUInt64, UInt8.toNat_sub_of_le _ _ hle, digitValue]

/-- A digit is taken by a product and a sum, each of which saturates. -/
lemma decimalFrom_eq_foldl (n : UInt64) (h : ∀ d ∈ ds, isDigit d) :
    decimalFrom n ds =
      ds.foldl (fun n d => Word.saturatingAdd (Word.saturatingMul n 10) (d - code '0').toUInt64)
        n := by
  induction ds generalizing n with
  | nil => rfl
  | cons d ds ih =>
    rw [List.forall_mem_cons] at h
    have hstep : Word.saturate (n.toNat * 10 + digitValue d) =
        Word.saturatingAdd (Word.saturatingMul n 10) (d - code '0').toUInt64 := by
      rw [← UInt64.toNat_inj, Word.toNat_saturatingAdd_saturatingMul, Word.toNat_saturate,
        toNat_digit h.1]
      rfl
    rw [List.foldl_cons, ← hstep]
    exact ih _ h.2

lemma decimalValue_append (ds more : Bytes) :
    decimalValue (ds ++ more) = decimalValue ds * 10 ^ more.length + decimalValue more := by
  rw [decimalValue, List.map_append, List.reverse_append, Nat.ofDigits_append, List.length_reverse,
    List.length_map, Nat.add_comm, Nat.mul_comm]
  rfl

lemma decimalValue_le_append (ds more : Bytes) : decimalValue ds ≤ decimalValue (ds ++ more) := by
  have hpow : 0 < 10 ^ more.length := Nat.pow_pos (by omega)
  calc decimalValue ds ≤ decimalValue ds * 10 ^ more.length := Nat.le_mul_of_pos_right _ hpow
    _ ≤ decimalValue (ds ++ more) := by
      rw [decimalValue_append]
      exact Nat.le_add_right _ _

/-- Reading a numeral anywhere in a format takes the longest run of digits there and nothing more.
It comes to the value of the run or, where that does not fit, to the largest word; without any digit
it comes to zero.  So a numeral of no smaller value comes to no smaller number, and digits behind
one that comes to the largest word change nothing. -/
theorem readDecimal_saturates (fmt : Bytes) (start : Nat) :
    let bs := fmt.drop start
    ∃ run, (∀ ds, StartsWith ds bs ↔ ds = run) ∧
      (readDecimal 0 bs).2 = fmt.drop (start + run.length) ∧
      (readDecimal 0 bs).1.toNat = min (decimalValue run) (2 ^ 64 - 1) ∧
      (readDecimal 0 bs).1 = run.foldl
        (fun n d => Word.saturatingAdd (Word.saturatingMul n 10) (d - code '0').toUInt64) 0 ∧
      (∀ other ds, StartsWith ds other → decimalValue run ≤ decimalValue ds →
        (readDecimal 0 bs).1 ≤ (readDecimal 0 other).1) ∧
      ∀ more, (∀ d ∈ more, isDigit d) → (readDecimal 0 bs).1 = Word.largest →
        readDecimal 0 (run ++ more ++ fmt.drop (start + run.length)) =
          (Word.largest, fmt.drop (start + run.length)) := by
  intro bs
  have hrun := startsWith_takeWhile bs
  have hrest : fmt.drop (start + (bs.takeWhile isDigit).length) = bs.dropWhile isDigit := by
    rw [dropWhile_isDigit_eq_drop, List.drop_drop]
  refine ⟨bs.takeWhile isDigit, fun ds => startsWith_iff, ?_, ?_, ?_, ?_, ?_⟩
  · rw [readDecimal_eq, hrest]
  · rw [readDecimal_eq, toNat_decimalFrom_eq_min]
  · rw [readDecimal_eq, decimalFrom_eq_foldl 0 hrun.isDigit_of_mem]
  · intro other ds hds hle
    rw [readDecimal_eq, readDecimal_eq, ← startsWith_iff.1 hds, UInt64.le_iff_toNat_le,
      toNat_decimalFrom_eq_min, toNat_decimalFrom_eq_min]
    omega
  · intro more hmore hlargest
    rw [readDecimal_eq, decimalFrom_eq_largest_iff] at hlargest
    have hdigits : ∀ d ∈ bs.takeWhile isDigit ++ more, isDigit d :=
      List.forall_mem_append.2 ⟨hrun.isDigit_of_mem, hmore⟩
    have hstops := stops_dropWhile isDigit bs
    rw [hrest, readDecimal_eq, List.takeWhile_append_of_pos hdigits,
      List.dropWhile_append_of_pos hdigits, hstops.takeWhile_eq, hstops.dropWhile_eq,
      List.append_nil, decimalFrom_eq_largest_iff.2]
    exact hlargest.trans (decimalValue_le_append _ more)

/-- The largest word is where numerals begin to be cut, leading zeros or not, and the digits that
follow are still taken. -/
theorem readDecimal_saturates_border :
    let fmt := bytes "%018446744073709551615d"
    let next := bytes "18446744073709551616"
    StartsWith (bytes "018446744073709551615") (fmt.drop 1) ∧ StartsWith next next ∧
      decimalValue (bytes "018446744073709551615") ≤ decimalValue next ∧
      (∀ d ∈ bytes "9", isDigit d) ∧ (readDecimal 0 (fmt.drop 1)).1 = Word.largest ∧
      (readDecimal 0 (fmt.drop 1)).1 ≤ (readDecimal 0 next).1 ∧
      readDecimal 0 (bytes "018446744073709551615" ++ bytes "9" ++ bytes "d") =
        (Word.largest, bytes "d") := by
  intro fmt next
  have hstarts : StartsWith (bytes "018446744073709551615") (fmt.drop 1) :=
    startsWith_iff.2 (by decide +kernel)
  have hnext : StartsWith next next := startsWith_iff.2 (by decide +kernel)
  have hle : decimalValue (bytes "018446744073709551615") ≤ decimalValue next := by decide +kernel
  have hmore : ∀ d ∈ bytes "9", isDigit d := by decide +kernel
  have hlargest : (readDecimal 0 (fmt.drop 1)).1 = Word.largest := by decide +kernel
  obtain ⟨run, hrun, -, -, -, hmono, happend⟩ := readDecimal_saturates fmt 1
  obtain rfl := (hrun _).1 hstarts
  exact ⟨hstarts, hnext, hle, hmore, hlargest, hmono _ _ hnext hle, happend _ hmore hlargest⟩

end Format

end RuntimeSupport

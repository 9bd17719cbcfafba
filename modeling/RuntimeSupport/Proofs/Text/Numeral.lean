import Mathlib.Data.List.TakeWhile
import Mathlib.Tactic.Lemma
import RuntimeSupport.Numeral

/-!
# Numerals inside a text

A numeral consists of figures.  If a text goes on behind it with something that is none, then it can
be told where the numeral ends, and so which number it stands for: `text_append_inj`.
-/

namespace RuntimeSupport.Numeral

/-- The characters that numerals consist of. -/
def isFigure (c : Char) : Bool := c.isDigit || ('a' ≤ c && c ≤ 'f')

/-- The figure of a digit. -/
def figure (d : Nat) : Char := Char.ofNat (glyph false d).toNat

/-- The digit of a figure. -/
def figureValue (c : Char) : Nat :=
  if c.isDigit then c.toNat - '0'.toNat else c.toNat - 'a'.toNat + 10

/-- A text does not go on with a figure, and so ends a numeral in front of it. -/
def EndsNumeral (cs : List Char) : Prop := cs.head?.any isFigure = false

variable {r : Radix} {m n : Nat} {c : Char}

/-! ## Figures -/

lemma isFigure_figure : ∀ d < 16, isFigure (figure d) := by decide

lemma isDigit_figure : ∀ d < 10, (figure d).isDigit := by decide

lemma figureValue_figure : ∀ d < 16, figureValue (figure d) = d := by decide

lemma lt_sixteen_of_mem_digits {d : Nat} (h : d ∈ digits r n) : d < 16 := by
  have hbase := lt_base_of_mem_digits h
  cases r <;> simp only [Radix.base] at hbase <;> omega

lemma toList_text (r : Radix) (n : Nat) : (text r n).toList = (digits r n).map figure := by
  rw [text, String.toList_ofList, ascii, List.map_map]
  rfl

lemma isFigure_of_mem_text (h : c ∈ (text r n).toList) : isFigure c := by
  rw [toList_text] at h
  obtain ⟨d, hd, rfl⟩ := List.mem_map.1 h
  exact isFigure_figure d (lt_sixteen_of_mem_digits hd)

/-- A decimal numeral starts with a digit. -/
lemma exists_toList_decimal (n : Nat) : ∃ c cs, (decimal n).toList = c :: cs ∧ c.isDigit := by
  obtain ⟨d, ds, hds⟩ := List.exists_cons_of_ne_nil (digits_ne_nil .decimal n)
  have hd : d ∈ digits .decimal n := hds ▸ List.mem_cons_self
  refine ⟨figure d, ds.map figure, ?_, isDigit_figure d (lt_base_of_mem_digits hd)⟩
  rw [decimal, toList_text, hds, List.map_cons]

/-! ## What a numeral stands for -/

/-- The number of a numeral can be read off its figures. -/
lemma value_map_figureValue (r : Radix) (n : Nat) :
    value r ((text r n).toList.map figureValue) = n := by
  have hdigits : (digits r n).map (figureValue ∘ figure) = digits r n :=
    (List.map_congr_left fun d hd => figureValue_figure d (lt_sixteen_of_mem_digits hd)).trans
      (List.map_id' _)
  rw [toList_text, List.map_map, hdigits, value_digits]

lemma text_injective (r : Radix) : Function.Injective (text r) := by
  intro m n h
  rw [← value_map_figureValue r m, h, value_map_figureValue]

/-- A numeral ends where the figures end. -/
lemma takeWhile_text_append {x : List Char} (hx : EndsNumeral x) (r : Radix) (n : Nat) :
    ((text r n).toList ++ x).takeWhile isFigure = (text r n).toList := by
  rw [List.takeWhile_append_of_pos fun _ => isFigure_of_mem_text]
  cases x with
  | nil => exact List.append_nil _
  | cons c x =>
    have hc : isFigure c = false := hx
    rw [List.takeWhile_cons_of_neg (by simp [hc]), List.append_nil]

/-- Texts that are alike have the same number in the same place, and go on alike behind it. -/
lemma text_append_inj {x y : List Char} (h : (text r m).toList ++ x = (text r n).toList ++ y)
    (hx : EndsNumeral x) (hy : EndsNumeral y) : m = n ∧ x = y := by
  have htext := congrArg (List.takeWhile isFigure) h
  rw [takeWhile_text_append hx, takeWhile_text_append hy, String.toList_inj] at htext
  obtain rfl := text_injective r htext
  exact ⟨rfl, List.append_cancel_left h⟩

lemma word_injective : Function.Injective word :=
  fun _ _ h => UInt64.toNat_inj.1 (text_injective .decimal h)

lemma word_append_inj {a b : UInt64} {x y : List Char}
    (h : (word a).toList ++ x = (word b).toList ++ y) (hx : EndsNumeral x) (hy : EndsNumeral y) :
    a = b ∧ x = y :=
  (text_append_inj h hx hy).imp_left UInt64.toNat_inj.1

/-! ## Signs -/

lemma decimal_ne_minus (m n : Nat) : decimal m ≠ "-" ++ decimal n := by
  intro h
  obtain ⟨c, cs, hcs, hc⟩ := exists_toList_decimal m
  rw [h, String.toList_append] at hcs
  -- a minus sign is no digit
  obtain rfl : '-' = c := (List.cons.inj hcs).1
  exact absurd hc (by decide)

lemma signedDecimal_injective : Function.Injective signedDecimal := by
  intro i j h
  cases i with
  | ofNat m =>
    cases j with
    | ofNat n => exact congrArg Int.ofNat (text_injective .decimal h)
    | negSucc n => exact absurd h (decimal_ne_minus m (n + 1))
  | negSucc m =>
    cases j with
    | ofNat n => exact absurd h.symm (decimal_ne_minus n (m + 1))
    | negSucc n =>
      have hnumeral : decimal (m + 1) = decimal (n + 1) := String.append_right_inj _ |>.1 h
      exact congrArg Int.negSucc (Nat.succ.inj (text_injective .decimal hnumeral))

/-- A signed numeral starts with a digit or a minus sign. -/
lemma exists_toList_signedDecimal (i : Int) :
    ∃ c cs, (signedDecimal i).toList = c :: cs ∧ (c.isDigit ∨ c = '-') := by
  cases i with
  | ofNat n =>
    obtain ⟨c, cs, hcs, hc⟩ := exists_toList_decimal n
    exact ⟨c, cs, hcs, .inl hc⟩
  | negSucc n => exact ⟨'-', _, String.toList_append, .inr rfl⟩

end RuntimeSupport.Numeral

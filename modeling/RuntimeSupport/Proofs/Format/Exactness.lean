import RuntimeSupport.Proofs.Format.Integer

/-!
# Integer conversions are exact

The field that an integer conversion makes in a layout of words is what `Form.write` writes for the
integer in the form that the layout is (`Conversion.bytes_of_field`).  That form is the one which
the directive asks for, unless it is too long for any buffer (`Layout.Saturates.toForm_eq`).

The main statement is `format_writes_integer`.
-/

namespace RuntimeSupport

namespace Format

open Ascii

variable {form : Form} {conv : Conversion} {v : Int} {ds : List Nat} {out : Bytes}

/-! ## Forms that fit a buffer -/

namespace Form

/-- No part of a form is longer than a buffer. -/
structure Narrow (form : Form) : Prop where
  width : form.width ≤ maxLength
  precision : ∀ p ∈ form.precision, p ≤ maxLength

lemma Writes.narrow (h : form.Writes conv v ds out) (hout : out.length ≤ maxLength) :
    form.Narrow := by
  have hlength := h.length_eq
  have hmark : ds.length ≤ (form.mark conv ds).length := by
    unfold mark
    split
    · exact Nat.le_succ _
    · exact Nat.le_refl _
  have hdigits := h.length_digits
  refine ⟨by omega, ?_⟩
  intro p hp
  rw [Option.mem_def.1 hp, Option.getD_some] at hdigits
  omega

end Form

/-- The form that a layout is. -/
def Layout.toForm (l : Layout) : Form := ⟨l.flags, l.width.toNat, l.precision.map UInt64.toNat⟩

@[simp] lemma Layout.toForm_flags (l : Layout) : l.toForm.flags = l.flags := rfl

namespace Layout.Saturates

variable {l : Layout}

lemma toForm_eq (h : l.Saturates form) (hform : form.Narrow) : l.toForm = form := by
  have hlargest : maxLength ≤ Word.largest.toNat := by decide
  obtain ⟨flags, width, precision⟩ := form
  have hwidth : l.width.toNat = width := by
    rw [h.width]
    exact Nat.min_eq_left (hform.width.trans hlargest)
  have hprecision : l.precision.map UInt64.toNat = precision := by
    rw [h.precision]
    cases precision with
    | none => rfl
    | some p => exact congrArg some (Nat.min_eq_left ((hform.precision p rfl).trans hlargest))
  rw [Layout.toForm, h.flags, hwidth, hprecision]

/-- A form that has been cut is as wide as the largest word somewhere, and that fits no buffer. -/
lemma narrow (h : l.Saturates form) (hl : l.toForm.Narrow) : form.Narrow := by
  have hlargest : maxLength < Word.largest.toNat := by decide
  have hcut : ∀ m, min m Word.largest.toNat ≤ maxLength → m ≤ maxLength := by omega
  refine ⟨hcut _ ?_, ?_⟩
  · rw [← h.width]
    exact hl.width
  · intro p hp
    refine hcut p (hl.precision _ ?_)
    rw [Layout.toForm, h.precision, Option.mem_def.1 hp]
    rfl

end Layout.Saturates

/-! ## The fields of integers -/

/-- The digits of a field, with the zeros of its precision. -/
def Field.digits (f : Field) : Bytes := List.replicate f.zeros (code '0') ++ f.body

lemma Field.bytes_eq (f : Field) :
    f.bytes =
      match f.fill with
      | .trailing => f.lead ++ f.digits ++ List.replicate f.padding (code ' ')
      | .zeros => f.lead ++ List.replicate f.padding (code '0') ++ f.digits
      | .leading => List.replicate f.padding (code ' ') ++ (f.lead ++ f.digits) := by
  unfold Field.bytes Field.pieces Field.digits
  cases f.fill <;> simp [Piece.bytes]

/-- A field writes an integer if it has the lead and the digits for it, and is filled as a number.
-/
lemma Field.bytes_eq_write {f : Field} {l : Layout} (hlead : f.lead = l.toForm.lead conv v)
    (hdigits : f.digits = conv.spell (l.toForm.mark conv
      (Numeral.padded conv.radix (l.toForm.precision.getD 1) v.natAbs)))
    (hwidth : f.width = l.width) (hfill : f.fill = l.numberFill) :
    f.bytes = l.toForm.write conv v := by
  have hpadding : f.padding = l.toForm.width - (f.lead.length + f.digits.length) := by
    rw [Field.padding, Field.contentLength, hwidth, Field.digits, List.length_append,
      List.length_replicate, Nat.add_assoc]
    rfl
  have hnone : l.toForm.precision = none ↔ l.precision.isNone := by
    rw [Layout.toForm, Option.isNone_iff_eq_none, Option.map_eq_none_iff]
  rw [Form.write, ← hdigits, ← hlead, ← hpadding, Field.bytes_eq, hfill, Layout.numberFill]
  simp only [hnone, ← Bool.and_eq_true]
  show _ = if l.flags.left then _ else if l.flags.zero && l.precision.isNone then _ else _
  split_ifs <;> rfl

lemma Conversion.glyph_eq (conv : Conversion) {d : Nat} (h : d < 16) :
    Numeral.glyph (conv = .upperHex) d = conv.glyphs.getD d 0 := by
  have hlower : ∀ d < 16, Numeral.glyph false d = (bytes "0123456789abcdef").getD d 0 := by
    decide +kernel
  have hupper : ∀ d < 16, Numeral.glyph true d = (bytes "0123456789ABCDEF").getD d 0 := by
    decide +kernel
  cases conv with
  | upperHex => exact hupper d h
  | _ => exact hlower d h

lemma glyph_zero (upper : Bool) : Numeral.glyph upper 0 = code '0' := by
  cases upper <;> decide

/-- Zero has one digit of its own, unless the precision is zero. -/
lemma Layout.digits_number_zero (l : Layout) (r : Numeral.Radix) (upper : Bool) :
    List.replicate (l.leadingZeros (l.digits r upper 0)) (code '0') ++ l.digits r upper 0 =
      (Numeral.padded r (l.toForm.precision.getD 1) 0).map (Numeral.glyph upper) := by
  have hpadded : ∀ k, Numeral.padded r k 0 = List.replicate k 0 := by
    intro k
    rw [Numeral.padded, Nat.digits_zero, List.length_nil, Nat.sub_zero, List.reverse_nil,
      List.append_nil]
  have hone : Numeral.ascii r upper 0 = [code '0'] := by
    cases r <;> cases upper <;> decide +kernel
  rw [hpadded, List.map_replicate, glyph_zero, Layout.digits, Layout.leadingZeros, Layout.toForm]
  cases hp : l.precision with
  | none => simp [hone]
  | some p =>
    by_cases hp0 : p = 0
    · simp [hp0]
    · have hpos : p.toNat ≠ 0 := fun h => hp0 (UInt64.toNat_inj.1 h)
      obtain ⟨k, hk⟩ := Nat.exists_eq_succ_of_ne_zero hpos
      simp [hone, hp0, hk, List.replicate_succ']

/-- The digits of a number in a layout are its digits, after as many zeros as the precision asks
for.
-/
lemma Layout.digits_number (l : Layout) (r : Numeral.Radix) (upper : Bool) (n : Nat) :
    List.replicate (l.leadingZeros (l.digits r upper n)) (code '0') ++ l.digits r upper n =
      (Numeral.padded r (l.toForm.precision.getD 1) n).map (Numeral.glyph upper) := by
  by_cases hn : n = 0
  · rw [hn]
    exact l.digits_number_zero r upper
  have hlength : 0 < (Nat.digits r.base n).length :=
    List.length_pos_iff.2 (Nat.digits_ne_nil_iff_ne_zero.2 hn)
  have hdigits : l.digits r upper n = (Nat.digits r.base n).reverse.map (Numeral.glyph upper) := by
    rw [Layout.digits, if_neg fun h => hn h.1, Numeral.ascii, Numeral.digits_eq hn]
  have hzeros : l.leadingZeros (l.digits r upper n) =
      l.toForm.precision.getD 1 - (Nat.digits r.base n).length := by
    rw [Layout.leadingZeros, hdigits, List.length_map, List.length_reverse, Layout.toForm]
    cases l.precision with
    | none =>
      show 0 = 1 - (Nat.digits r.base n).length
      omega
    | some p => rfl
  rw [hzeros, hdigits, Numeral.padded, List.map_append, List.map_replicate, glyph_zero]

lemma Conversion.lt_of_mem_padded (conv : Conversion) (k n : Nat) :
    ∀ d ∈ Numeral.padded conv.radix k n, d < 16 :=
  fun _ hd => Nat.lt_of_lt_of_le (Numeral.lt_base_of_mem_padded hd) conv.base_le

lemma Layout.digits_number_eq_spell (l : Layout) (conv : Conversion) (lead : Bytes) (n : Nat) :
    (l.number lead (l.digits conv.radix (conv = .upperHex) n)).digits =
      conv.spell (Numeral.padded conv.radix (l.toForm.precision.getD 1) n) :=
  (l.digits_number _ _ _).trans <|
    List.map_congr_left fun d hd => conv.glyph_eq (conv.lt_of_mem_padded _ n d hd)

lemma Conversion.head?_spell (conv : Conversion) (h : ∀ d ∈ ds, d < 16) :
    (conv.spell ds).head? = some (code '0') ↔ ds.head? = some 0 := by
  cases ds with
  | nil => simp [spell]
  | cons d ds =>
    have hd := conv.digit?_glyph (h d List.mem_cons_self)
    have hzero : digit? (conv.glyphs.getD 0 0) = some 0 := conv.digit?_glyph (by decide)
    have hglyph : conv.glyphs.getD 0 0 = code '0' := by cases conv <;> decide
    simp only [spell, List.map_cons, List.head?_cons, Option.some.injEq]
    constructor
    · intro h
      rw [h, ← hglyph, hzero] at hd
      exact (Option.some.inj hd).symm
    · rintro rfl
      exact hglyph

lemma Layout.octal_digits (l : Layout) (n : UInt64) :
    let f := l.number [] (l.digits .octal false n.toNat)
    (l.octal n).digits =
      if l.flags.alternate ∧ f.digits.head? ≠ some (code '0') then code '0' :: f.digits
      else f.digits := by
  intro f
  have hhead : f.digits.head? ≠ some (code '0') ↔
      f.zeros = 0 ∧ f.body.head? ≠ some (code '0') := by
    rw [Field.digits]
    cases f.zeros with
    | zero => simp
    | succ k => simp [List.replicate_succ]
  simp only [hhead]
  rw [Layout.octal]
  split_ifs with hmark
  · have hbody : f.digits = f.body := by
      rw [Field.digits, hmark.2.1]
      rfl
    rw [hbody]
    rfl
  · rfl

/-- The radix mark of an octal number is one more zero, in front of digits that start with none. -/
lemma Layout.octal_digits_eq_spell (l : Layout) (n : UInt64) :
    (l.octal n).digits =
      Conversion.octal.spell (l.toForm.mark .octal
        (Numeral.padded Conversion.octal.radix (l.toForm.precision.getD 1) n.toNat)) := by
  have hlt := Conversion.octal.lt_of_mem_padded (l.toForm.precision.getD 1) n.toNat
  have hdigits := l.digits_number_eq_spell .octal [] n.toNat
  have hglyph : Conversion.octal.glyphs.getD 0 0 = code '0' := by decide
  rw [l.octal_digits, show (l.number [] (l.digits .octal false n.toNat)).digits = _ from hdigits]
  simp only [Form.mark, true_and, ne_eq, Conversion.octal.head?_spell hlt, l.toForm_flags]
  by_cases hmark : l.flags.alternate ∧
      ¬(Numeral.padded Conversion.octal.radix (l.toForm.precision.getD 1) n.toNat).head? = some 0
  · rw [if_pos hmark, if_pos hmark, ← hglyph]
    rfl
  · rw [if_neg hmark, if_neg hmark]

/-! ## Arguments and their integers -/

lemma Argument.map_signed? (a : Argument) :
    a.signed?.map Int64.toInt = a.number?.map (Int.bmod · (2 ^ 64)) := by
  cases a with
  | int v =>
    have hlow := v.le_toInt
    have hhigh := v.toInt_lt
    refine congrArg some (Int.bmod_eq_of_le ?_ ?_).symm
    · omega
    · omega
  | uint v => exact congrArg some (BitVec.toInt_eq_toNat_bmod v.toBitVec)
  | char c =>
    have hsmall := c.toNat_lt
    have hfits : c.toNat < 2 ^ 63 := by omega
    refine congrArg some ((Int64.toInt_ofNat_of_lt hfits).trans (Int.bmod_eq_of_le ?_ ?_).symm)
    · omega
    · omega
  | bytes bs => rfl
  | pointer address => rfl

lemma Argument.map_unsigned? (a : Argument) :
    a.unsigned?.map (fun n => (n.toNat : Int)) = a.number?.map (· % 2 ^ 64) := by
  cases a with
  | int v =>
    have hcomplement : v.toInt = (v.toUInt64.toNat : Int).bmod (2 ^ 64) :=
      BitVec.toInt_eq_toNat_bmod v.toBitVec
    have hlt := v.toUInt64.toNat_lt
    have hmod : (v.toUInt64.toNat : Int) = v.toInt % 2 ^ 64 := by
      have hemod : v.toInt % 2 ^ 64 = (v.toUInt64.toNat : Int) % 2 ^ 64 := by
        rw [hcomplement]
        exact Int.bmod_emod
      omega
    exact congrArg some hmod
  | uint v =>
    have hlt := v.toNat_lt
    have hmod : (v.toNat : Int) = v.toNat % 2 ^ 64 := by omega
    exact congrArg some hmod
  | char c =>
    have hlt := c.toNat_lt
    have hmod : (c.toUInt64.toNat : Int) = c.toNat % 2 ^ 64 := by
      rw [UInt8.toNat_toUInt64]
      omega
    exact congrArg some hmod
  | bytes bs => rfl
  | pointer address => rfl

lemma Conversion.integer?_of_signed {a : Argument} {n : Int64} (hn : a.signed? = some n)
    (hconv : conv = .decimal ∨ conv = .integer) : conv.integer? a = some n.toInt := by
  have hmap := a.map_signed?
  rw [hn, Option.map_some] at hmap
  rcases hconv with rfl | rfl
  · exact hmap.symm
  · exact hmap.symm

lemma Conversion.integer?_of_unsigned {a : Argument} {n : UInt64} (hn : a.unsigned? = some n)
    (hconv : conv ∈ [Conversion.unsigned, .lowerHex, .upperHex, .octal]) :
    conv.integer? a = some (n.toNat : Int) := by
  have hmap := a.map_unsigned?
  rw [hn, Option.map_some] at hmap
  simp only [List.mem_cons, List.not_mem_nil, or_false] at hconv
  rcases hconv with rfl | rfl | rfl | rfl
  all_goals exact hmap.symm

lemma Conversion.demand_of_mem_integers (hconv : conv ∈ Conversion.integers) :
    conv.demand = .number := by
  simp only [integers, List.mem_cons, List.not_mem_nil, or_false] at hconv
  rcases hconv with rfl | rfl | rfl | rfl | rfl | rfl
  all_goals rfl

/-- Only a conversion with a sign has negative integers to write. -/
lemma Conversion.signed_of_neg {a : Argument} (h : conv.integer? a = some v) (hv : v < 0) :
    conv = .decimal ∨ conv = .integer := by
  cases conv with
  | decimal => exact .inl rfl
  | integer => exact .inr rfl
  | unsigned | lowerHex | upperHex | octal =>
    obtain ⟨i, -, rfl⟩ := Option.map_eq_some_iff.1 h
    have hpositive : 0 ≤ i % 2 ^ 64 := Int.emod_nonneg i (by decide)
    omega
  | character | string | pointer => cases h

/-! ### The field of each conversion -/

namespace Layout

variable (l : Layout)

lemma bytes_signed (conv : Conversion) (hconv : conv = .decimal ∨ conv = .integer) (n : Int64) :
    (l.signed n).bytes = l.toForm.write conv n.toInt := by
  have hsign : n < 0 ↔ n.toInt < 0 := Int64.lt_iff_toInt_lt
  have hlead : l.flags.sign n = l.toForm.lead conv n.toInt := by
    have hsigns : l.toForm.lead conv n.toInt =
        if n.toInt < 0 then bytes "-" else if l.flags.plus then bytes "+"
        else if l.flags.space then bytes " " else [] := by
      rcases hconv with rfl | rfl <;> rfl
    rw [hsigns, Flags.sign]
    simp only [hsign]
    rfl
  have hdigits := l.digits_number_eq_spell conv (l.flags.sign n) n.toInt.natAbs
  rcases hconv with rfl | rfl
  · exact Field.bytes_eq_write hlead hdigits rfl rfl
  · exact Field.bytes_eq_write hlead hdigits rfl rfl

lemma bytes_unsigned (n : UInt64) : (l.unsigned n).bytes = l.toForm.write .unsigned n.toNat := by
  have hdigits := l.digits_number_eq_spell .unsigned [] n.toNat
  rw [← Int.natAbs_natCast n.toNat] at hdigits
  exact Field.bytes_eq_write rfl hdigits rfl rfl

lemma bytes_hexadecimal (conv : Conversion) (hconv : conv = .lowerHex ∨ conv = .upperHex)
    (n : UInt64) :
    (l.hexadecimal (conv = .upperHex) n).bytes = l.toForm.write conv n.toNat := by
  have hzero : n ≠ 0 ↔ (n.toNat : Int) ≠ 0 := by
    rw [ne_eq, ne_eq, Int.natCast_eq_zero, ← UInt64.toNat_inj]
    rfl
  have hdigits := l.digits_number_eq_spell conv (l.toForm.lead conv n.toNat) n.toNat
  rw [← Int.natAbs_natCast n.toNat] at hdigits
  rcases hconv with rfl | rfl
  · refine Field.bytes_eq_write ?_ hdigits rfl rfl
    simp only [hexadecimal, number, Form.lead, hzero]
    rfl
  · refine Field.bytes_eq_write ?_ hdigits rfl rfl
    simp only [hexadecimal, number, Form.lead, hzero]
    rfl

lemma bytes_octal (n : UInt64) : (l.octal n).bytes = l.toForm.write .octal n.toNat := by
  obtain ⟨hlead, hwidth, hfill⟩ := l.octal_eq n
  have hdigits := l.octal_digits_eq_spell n
  rw [← Int.natAbs_natCast n.toNat] at hdigits
  exact Field.bytes_eq_write hlead hdigits hwidth hfill

end Layout

/-- The field of an integer conversion is what is written for an integer. -/
lemma Conversion.bytes_of_field {l : Layout} {a : Argument} {f : Field}
    (hconv : conv ∈ Conversion.integers) (hf : conv.field? l a = some f) :
    ∃ v, conv.integer? a = some v ∧ f.bytes = l.toForm.write conv v := by
  cases conv with
  | decimal =>
    obtain ⟨n, hn, rfl⟩ := Option.map_eq_some_iff.1 hf
    exact ⟨_, integer?_of_signed hn (.inl rfl), l.bytes_signed .decimal (.inl rfl) n⟩
  | integer =>
    obtain ⟨n, hn, rfl⟩ := Option.map_eq_some_iff.1 hf
    exact ⟨_, integer?_of_signed hn (.inr rfl), l.bytes_signed .integer (.inr rfl) n⟩
  | unsigned =>
    obtain ⟨n, hn, rfl⟩ := Option.map_eq_some_iff.1 hf
    exact ⟨_, integer?_of_unsigned hn (by decide), l.bytes_unsigned n⟩
  | lowerHex =>
    obtain ⟨n, hn, rfl⟩ := Option.map_eq_some_iff.1 hf
    exact ⟨_, integer?_of_unsigned hn (by decide), l.bytes_hexadecimal .lowerHex (.inl rfl) n⟩
  | upperHex =>
    obtain ⟨n, hn, rfl⟩ := Option.map_eq_some_iff.1 hf
    exact ⟨_, integer?_of_unsigned hn (by decide), l.bytes_hexadecimal .upperHex (.inr rfl) n⟩
  | octal =>
    obtain ⟨n, hn, rfl⟩ := Option.map_eq_some_iff.1 hf
    exact ⟨_, integer?_of_unsigned hn (by decide), l.bytes_octal n⟩
  | character | string | pointer => exact absurd hconv (by decide)

/-! ### What a directive writes -/

namespace Spelling

variable {s : Spelling} {stars : List Argument}

/-- An argument of an accepted kind is written as the form demands, if that fits a buffer. -/
lemma exists_integer (hletter : s.letter = .conversion conv) (hconv : conv ∈ Conversion.integers)
    (hform : s.Asks stars form) {a : Argument} (ha : Demand.number.MetBy a) :
    ∃ v, conv.integer? a = some v ∧ ∀ bs, format (code '%' :: s.text) (stars ++ [a]) = .ok bs ↔
      bs = form.write conv v ∧ (form.write conv v).length ≤ maxLength := by
  obtain ⟨l, hlayout, hl⟩ := hform.exists_layout 0 [a]
  rw [Nat.zero_add] at hlayout
  have hdemand := Conversion.demand_of_mem_integers hconv
  obtain ⟨f, hf⟩ : ∃ f, conv.field? l a = some f :=
    Option.isSome_iff_exists.1 ((conv.isSome_field? l a).2 (hdemand ▸ ha))
  obtain ⟨v, hv, hbytes⟩ := Conversion.bytes_of_field hconv hf
  refine ⟨v, hv, fun bs => ?_⟩
  rw [s.format_text_eq_ok_iff hletter hlayout]
  -- what fits a buffer has not been cut, so the layout is the form itself
  constructor
  · rintro ⟨g, hg, rfl, hlength⟩
    obtain rfl : f = g := Option.some.inj (hf.symm.trans hg)
    rw [hbytes] at hlength ⊢
    have hnarrow := (l.toForm.writes_write conv v).narrow hlength
    rw [hl.toForm_eq (hl.narrow hnarrow)] at hlength ⊢
    exact ⟨rfl, hlength⟩
  · rintro ⟨rfl, hlength⟩
    have hsame := hl.toForm_eq ((form.writes_write conv v).narrow hlength)
    exact ⟨f, hf, by rw [hbytes, hsame], hlength⟩

lemma metBy_of_format_ok (hletter : s.letter = .conversion conv)
    (hconv : conv ∈ Conversion.integers) (hform : s.Asks stars form) {a : Argument}
    (h : format (code '%' :: s.text) (stars ++ [a]) = .ok out) : Demand.number.MetBy a := by
  obtain ⟨l, hlayout, -⟩ := hform.exists_layout 0 [a]
  rw [Nat.zero_add] at hlayout
  obtain ⟨f, hf, -⟩ := (s.format_text_eq_ok_iff hletter hlayout out).1 h
  rw [← Conversion.demand_of_mem_integers hconv]
  exact (conv.isSome_field? l a).1 (Option.isSome_iff_exists.2 ⟨f, hf⟩)

end Spelling

end Format

open Format

/-- Integer conversions are exact.  Whatever flags, width and precision a directive has, spelled out
or taken from arguments, every argument of an accepted kind comes to an integer, which is written in
the form that the directive asks for and can be read back; the call succeeds exactly if what is
written fits a buffer.  So no two integers are written alike by one directive. -/
theorem format_writes_integer {s : Spelling} {conv : Conversion} {stars : List Argument}
    {form : Form} (hletter : s.letter = .conversion conv) (hconv : conv ∈ Conversion.integers)
    (hform : s.Asks stars form) :
    let fmt := Ascii.code '%' :: s.text
    (∀ a, Demand.number.MetBy a → ∃ v ds out, conv.integer? a = some v ∧
      form.Writes conv v ds out ∧ conv.readBack out = v ∧
      ∀ bs, format fmt (stars ++ [a]) = .ok bs ↔ bs = out ∧ out.length ≤ maxLength) ∧
    ∀ a b out, format fmt (stars ++ [a]) = .ok out → format fmt (stars ++ [b]) = .ok out →
      ∃ v, conv.integer? a = some v ∧ conv.integer? b = some v := by
  intro fmt
  have hread : ∀ a v, conv.integer? a = some v → conv.readBack (form.write conv v) = v :=
    fun a v hv => (form.writes_write conv v).readBack_eq (Conversion.signed_of_neg hv)
  refine ⟨fun a ha => ?_, fun a b out ha hb => ?_⟩
  · obtain ⟨v, hv, hformat⟩ := Spelling.exists_integer hletter hconv hform ha
    exact ⟨v, _, _, hv, form.writes_write conv v, hread a v hv, hformat⟩
  · have haccepted := Spelling.metBy_of_format_ok hletter hconv hform ha
    have haccepted' := Spelling.metBy_of_format_ok hletter hconv hform hb
    obtain ⟨v, hv, hformat⟩ := Spelling.exists_integer hletter hconv hform haccepted
    obtain ⟨w, hw, hformat'⟩ := Spelling.exists_integer hletter hconv hform haccepted'
    -- both are the same bytes, which are read back as one integer only
    have hsame : v = w := by
      rw [← hread a v hv, ← hread b w hw, ← ((hformat out).1 ha).1, ← ((hformat' out).1 hb).1]
    exact ⟨v, hv, hsame ▸ hw⟩

example : format (Ascii.bytes "%#06x") [.uint 255] = .ok (Ascii.bytes "0x00ff") := by decide +kernel

/-- A negative width that an argument gives, and a precision: the field is filled behind the digits.
-/
theorem format_writes_integer_trailing :
    let out := Ascii.bytes "-005    "
    format (Ascii.bytes "%+0*.3ld") [.int (-8), .int (-5)] = .ok out ∧
      Conversion.decimal.readBack out = -5 ∧
      ∃ ds, Form.Writes ⟨⟨true, true, true, false, false⟩, 8, some 3⟩ .decimal (-5) ds out := by
  intro out
  let s : Spelling := ⟨Ascii.bytes "+0", Ascii.bytes "*", some (Ascii.bytes "3"), Ascii.bytes "l",
    .conversion .decimal, by decide +kernel, .inl rfl,
    by rintro _ ⟨⟩; exact .inr (by decide +kernel), by decide +kernel⟩
  have hwidth : Stands s.width [.int (-8)] (-8 : Int64).toInt := .star rfl
  have hprecision : Stands (Ascii.bytes "3") [] 3 := .digits (by decide +kernel)
  have hform : s.Asks [.int (-8)] ⟨⟨true, true, true, false, false⟩, 8, some 3⟩ :=
    .precise hwidth rfl hprecision
  have hformat : format (Ascii.bytes "%+0*.3ld") [.int (-8), .int (-5)] = .ok out := by
    decide +kernel
  obtain ⟨hwritten, -⟩ := format_writes_integer rfl (by decide) hform
  obtain ⟨v, ds, o, hv, hwrites, hread, hiff⟩ := hwritten (.int (-5)) trivial
  obtain ⟨rfl, -⟩ := (hiff out).1 hformat
  have hinteger : Conversion.decimal.integer? (.int (-5)) = some (-5) := by decide +kernel
  obtain rfl : -5 = v := Option.some.inj (hinteger.symm.trans hv)
  exact ⟨hformat, hread, ds, hwrites⟩

end RuntimeSupport

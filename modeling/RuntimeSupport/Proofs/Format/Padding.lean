import Mathlib.Data.List.Infix
import RuntimeSupport.Proofs.Format.Emission
import RuntimeSupport.Proofs.Outcome

/-!
# Sums of lengths

While a call writes its fields it adds lengths twice for each: a lead to the digits behind it, and
the padding to what the buffer holds when its turn comes.  `sums` lists the sums that are evaluated,
each as its two addends, and `Wraps` says that one needs more than 64 bits.  Plain bytes are listed
as well, with an empty lead and no padding.

Only the padding can make a sum wrap, and only behind some text: a width above half the range of a
word, which can be written out but cannot come from a `*`, added to a buffer that is not empty.  The
main statement is `formatInto_wraps_iff`.
-/

namespace RuntimeSupport

namespace Format

variable {length n : Nat} {b : UInt8} {bs : Bytes} {f : Field} {fs : List Field} {ps : List Piece}

/-- The sum of two lengths does not fit a word. -/
def Wraps (sum : Nat × Nat) : Prop := 0x1_0000_0000_0000_0000 ≤ sum.1 + sum.2

/-- The number of bytes of a field that are written before its padding. -/
def Field.front (f : Field) : Nat :=
  match f.fill with
  | .trailing => f.contentLength
  | .zeros => f.lead.length
  | .leading => 0

/-- The sums that are evaluated while a field is written behind `length` bytes.  The digits are laid
out first; the padding is added once the front is written. -/
def Field.sums (length : Nat) (f : Field) : List (Nat × Nat) :=
  if maxLength < f.zeros + f.body.length then []
  else (f.lead.length, f.zeros + f.body.length) ::
    if maxLength < length + f.front then [] else [(length + f.front, f.padding)]

/-- The sums that are evaluated while fields are written behind `length` bytes. -/
def sums (length : Nat) : List Field → List (Nat × Nat)
  | [] => []
  | f :: fs => f.sums length ++ if (f.emit length).2 = none then sums (length + f.length) fs else []

/-! ## Where writing stops -/

lemma emitPieces_text_wraps_iff :
    (emitPieces length (.text bs :: ps)).2 = some .arithmeticOverflow ↔
      length + bs.length ≤ maxLength ∧
        (emitPieces (length + bs.length) ps).2 = some .arithmeticOverflow := by
  rw [emitPieces, Piece.overflow?]
  by_cases h : maxLength < length + bs.length
  · simp [h, Nat.not_le_of_lt h]
  · simp [h, Nat.le_of_not_lt h, Piece.length]

lemma emitPieces_fill_wraps_iff :
    (emitPieces length (.fill b n :: ps)).2 = some .arithmeticOverflow ↔
      Wraps (length, n) ∨ length + n ≤ maxLength ∧
        (emitPieces (length + n) ps).2 = some .arithmeticOverflow := by
  rw [emitPieces, Piece.overflow?, Wraps]
  by_cases hword : 0x1_0000_0000_0000_0000 ≤ length + n
  · simp [hword]
  · by_cases h : maxLength < length + n
    · simp [hword, h, Nat.not_le_of_lt h]
    · simp [hword, h, Nat.le_of_not_lt h, Piece.length]

lemma Field.emitPieces_wraps_iff (h : length ≤ maxLength)
    (hdigits : f.zeros + f.body.length ≤ maxLength) :
    (emitPieces length f.pieces).2 = some .arithmeticOverflow ↔
      length + f.front ≤ maxLength ∧ Wraps (length + f.front, f.padding) := by
  have hnil : ∀ length, (emitPieces length []).2 ≠ some .arithmeticOverflow := by
    simp [emitPieces]
  rw [Field.pieces, Field.front]
  -- the zeros of a precision are no more than a buffer holds, so they never make a sum wrap
  cases f.fill with
  | trailing =>
    simp only [List.cons_append, List.nil_append, emitPieces_text_wraps_iff,
      emitPieces_fill_wraps_iff, hnil, and_false, or_false]
    simp only [Wraps, Field.contentLength, maxLength] at hdigits ⊢
    omega
  | zeros =>
    simp only [emitPieces_text_wraps_iff, emitPieces_fill_wraps_iff, hnil, and_false, or_false]
    simp only [Wraps, maxLength] at hdigits ⊢
    omega
  | leading =>
    simp only [emitPieces_text_wraps_iff, emitPieces_fill_wraps_iff, hnil, and_false, or_false]
    simp only [Wraps, maxLength] at h hdigits ⊢
    omega

lemma Field.not_wraps_content (f : Field) (hlead : f.lead.length ≤ 2)
    (hdigits : f.zeros + f.body.length ≤ maxLength) :
    ¬Wraps (f.lead.length, f.zeros + f.body.length) := by
  unfold Wraps
  unfold maxLength at hdigits
  omega

/-- The padding is the only part of a field that can make a sum wrap. -/
lemma Field.emit_wraps_iff (h : length ≤ maxLength) (hlead : f.lead.length ≤ 2) :
    (f.emit length).2 = some .arithmeticOverflow ↔ ∃ sum ∈ f.sums length, Wraps sum := by
  rw [Field.emit, Field.sums]
  by_cases hdigits : maxLength < f.zeros + f.body.length
  · simp [hdigits]
  have hcontent := f.not_wraps_content hlead (Nat.le_of_not_lt hdigits)
  rw [if_neg hdigits, if_neg hdigits, f.emitPieces_wraps_iff h (Nat.le_of_not_lt hdigits)]
  by_cases hfront : maxLength < length + f.front
  · simp [hfront, hcontent, Nat.not_le_of_lt hfront]
  · simp [hfront, hcontent, Nat.le_of_not_lt hfront]

lemma emit_wraps_iff (h : length ≤ maxLength) (hlead : ∀ f ∈ fs, f.lead.length ≤ 2) :
    (emit length fs).2 = some .arithmeticOverflow ↔ ∃ sum ∈ sums length fs, Wraps sum := by
  induction fs generalizing length with
  | nil => simp [emit, sums]
  | cons f fs ih =>
    have hf := Field.emit_wraps_iff h (hlead f List.mem_cons_self)
    rw [sums]
    by_cases hn : (f.emit length).2 = none
    · have hfits : length + f.length ≤ maxLength := (f.emit_eq_none_iff h).1 hn
      have hnot : ¬∃ sum ∈ f.sums length, Wraps sum := by
        rw [← hf, hn]
        simp
      rw [emit_cons_of_none hn, if_pos hn, ih hfits fun g hg => hlead g (List.mem_cons_of_mem f hg)]
      simp only [List.mem_append, or_and_right, exists_or, hnot, false_or]
    · rw [emit_cons_of_ne_none hn, if_neg hn, List.append_nil, hf]

/-! ## What has been written by then -/

lemma emitPieces_isPrefix (length : Nat) (ps : List Piece) :
    (emitPieces length ps).1 <+: ps.flatMap Piece.bytes := by
  induction ps generalizing length with
  | nil => exact List.prefix_rfl
  | cons p ps ih =>
    rw [emitPieces, List.flatMap_cons]
    cases p.overflow? length with
    | none => exact (List.prefix_append_right_inj _).2 (ih _)
    | some panic => exact List.nil_prefix

lemma Field.emit_isPrefix (length : Nat) (f : Field) : (f.emit length).1 <+: f.bytes := by
  rw [Field.emit]
  split
  · exact List.nil_prefix
  · exact emitPieces_isPrefix length f.pieces

lemma emit_isPrefix (length : Nat) (fs : List Field) :
    (emit length fs).1 <+: fs.flatMap Field.bytes := by
  induction fs generalizing length with
  | nil => exact List.prefix_rfl
  | cons f fs ih =>
    rw [List.flatMap_cons]
    by_cases hn : (f.emit length).2 = none
    · rw [emit_cons_of_none hn]
      exact (List.prefix_append_right_inj _).2 (ih _)
    · rw [emit_cons_of_ne_none hn]
      exact (f.emit_isPrefix length).trans (List.prefix_append _ _)

/-! ## Which sums wrap -/

lemma forall_mem_sums {P : Nat × Nat → Prop} (h : length ≤ maxLength)
    (hP : ∀ f ∈ fs, ∀ length ≤ maxLength, ∀ sum ∈ f.sums length, P sum) :
    ∀ sum ∈ sums length fs, P sum := by
  induction fs generalizing length with
  | nil => simp [sums]
  | cons f fs ih =>
    intro sum hsum
    rw [sums, List.mem_append] at hsum
    rcases hsum with hsum | hsum
    · exact hP f List.mem_cons_self length h sum hsum
    · split at hsum
      · next hn =>
        have hfits : length + f.length ≤ maxLength := (f.emit_eq_none_iff h).1 hn
        exact ih hfits (fun g hg => hP g (List.mem_cons_of_mem f hg)) sum hsum
      · cases hsum

lemma Field.mem_sums {sum : Nat × Nat} (h : sum ∈ f.sums length) :
    (sum = (f.lead.length, f.zeros + f.body.length) ∧ f.zeros + f.body.length ≤ maxLength) ∨
      (sum = (length + f.front, f.padding) ∧ length + f.front ≤ maxLength) := by
  rw [Field.sums] at h
  split at h
  · cases h
  · next hdigits =>
    rcases List.mem_cons.1 h with h | h
    · exact .inl ⟨h, Nat.le_of_not_lt hdigits⟩
    · split at h
      · cases h
      · next hfront => exact .inr ⟨List.mem_singleton.1 h, Nat.le_of_not_lt hfront⟩

/-- A sum that wraps, cut to a word, is less than what the buffer holds by then. -/
lemma Field.wrapped_lt (hlead : f.lead.length ≤ 2) {sum : Nat × Nat} (h : sum ∈ f.sums length)
    (hwraps : Wraps sum) : (sum.1 + sum.2) % 0x1_0000_0000_0000_0000 < sum.1 := by
  rcases Field.mem_sums h with ⟨rfl, hdigits⟩ | ⟨rfl, hfront⟩
  · exact absurd hwraps (f.not_wraps_content hlead hdigits)
  · have hwidth := f.width.toNat_lt
    simp only [Wraps, maxLength, Field.padding] at hwraps hfront ⊢
    omega

/-- A width of at most half the range of a word is harmless. -/
lemma Field.not_wraps (hlead : f.lead.length ≤ 2) (hwidth : f.width.toNat ≤ maxLength + 1)
    {sum : Nat × Nat} (h : sum ∈ f.sums length) : ¬Wraps sum := by
  rcases Field.mem_sums h with ⟨rfl, hdigits⟩ | ⟨rfl, hfront⟩
  · exact f.not_wraps_content hlead hdigits
  · simp only [Wraps, maxLength, Field.padding] at hwidth hfront ⊢
    omega

/-! ## The fields of a walk -/

lemma Directive.eq_of_field_ok {offset : Nat} {d : Directive} {s s' : Supply}
    (h : d.field offset s = .ok (f, s')) :
    f = .plain [Ascii.code '%'] ∨
      ∃ l s₁ conv a, d.layout s = .ok (l, s₁) ∧ Conversion.field? l a conv = some f := by
  rw [Directive.field, bind_eq_ok] at h
  obtain ⟨⟨l, s₁⟩, hl, h⟩ := h
  cases ht : d.tail with
  | missing => simp [ht] at h
  | unknown b => simp [ht] at h
  | percent =>
    simp only [ht, Except.ok.injEq, Prod.mk.injEq] at h
    exact .inl h.1.symm
  | conversion conv =>
    simp only [ht, bind_eq_ok] at h
    obtain ⟨⟨a, s₂⟩, -, h⟩ := h
    cases hf : conv.field? l a with
    | none => simp [hf] at h
    | some g =>
      simp only [hf, Except.ok.injEq, Prod.mk.injEq] at h
      exact .inr ⟨l, s₁, conv, a, hl, by rw [hf, h.1]⟩

lemma Directive.width_of_layout_ok {d : Directive} {s s' : Supply} {l : Layout}
    (h : d.layout s = .ok (l, s')) :
    ∃ fl s₁, d.width.toWidth d.flags s = .ok (fl, l.width, s₁) := by
  rw [Directive.layout, bind_eq_ok] at h
  obtain ⟨⟨fl, w, s₁⟩, hw, h⟩ := h
  cases hp : d.precision with
  | none =>
    simp only [hp, Except.ok.injEq, Prod.mk.injEq] at h
    obtain ⟨rfl, -⟩ := h
    exact ⟨fl, s₁, hw⟩
  | some p =>
    simp only [hp, bind_eq_ok] at h
    obtain ⟨⟨q, s₂⟩, -, h⟩ := h
    simp only [Except.ok.injEq, Prod.mk.injEq] at h
    obtain ⟨rfl, -⟩ := h
    exact ⟨fl, s₁, hw⟩

/-- The value of a `*` is an integer with a sign, so it is at most half the range of a word. -/
lemma Amount.toWidth_le {a : Amount} {flags fl : Flags} {s s' : Supply} {w : UInt64}
    (h : a.toWidth flags s = .ok (fl, w, s')) (ha : ∀ n, a = .number n → n.toNat ≤ maxLength + 1) :
    w.toNat ≤ maxLength + 1 := by
  cases a with
  | number n =>
    simp only [Amount.toWidth, Except.ok.injEq, Prod.mk.injEq] at h
    obtain ⟨-, rfl, -⟩ := h
    exact ha n rfl
  | star =>
    rw [Amount.toWidth, bind_eq_ok] at h
    obtain ⟨⟨v, s₁⟩, -, h⟩ := h
    simp only [Except.ok.injEq, Prod.mk.injEq] at h
    obtain ⟨-, rfl, -⟩ := h
    have hlow := v.le_toInt
    have hhigh := v.toInt_lt
    rw [UInt64.toNat_ofNat', maxLength]
    omega

lemma Flags.length_sign_le (fl : Flags) (v : Int64) : (fl.sign v).length ≤ 2 := by
  unfold Flags.sign
  repeat' split
  all_goals simp

/-- A lead is a sign or a radix mark, and the width is the one that is asked for. -/
lemma Conversion.lead_and_width {l : Layout} {a : Argument} {conv : Conversion}
    (h : conv.field? l a = some f) : f.lead.length ≤ 2 ∧ f.width = l.width := by
  have hhexadecimal : ∀ upper v, (l.hexadecimal upper v).lead.length ≤ 2 := by
    intro upper v
    simp only [Layout.hexadecimal, Layout.number]
    cases upper <;> split <;> decide
  cases conv with
  | decimal | integer =>
    obtain ⟨v, -, rfl⟩ := Option.map_eq_some_iff.1 h
    exact ⟨l.flags.length_sign_le v, rfl⟩
  | unsigned =>
    obtain ⟨v, -, rfl⟩ := Option.map_eq_some_iff.1 h
    exact ⟨Nat.zero_le 2, rfl⟩
  | lowerHex | upperHex =>
    obtain ⟨v, -, rfl⟩ := Option.map_eq_some_iff.1 h
    exact ⟨hhexadecimal _ v, rfl⟩
  | octal =>
    obtain ⟨v, -, rfl⟩ := Option.map_eq_some_iff.1 h
    obtain ⟨hlead, hwidth, -⟩ := l.octal_eq v
    exact ⟨by simp [hlead], hwidth⟩
  | character | string =>
    obtain ⟨v, -, rfl⟩ := Option.map_eq_some_iff.1 h
    exact ⟨Nat.zero_le 2, rfl⟩
  | pointer =>
    obtain ⟨v, -, rfl⟩ := Option.map_eq_some_iff.1 h
    exact ⟨Nat.le_refl 2, rfl⟩

lemma forall_mem_render {P : Field → Prop} {segs : List Segment} (s : Supply)
    (hplain : ∀ b, P (.plain [b]))
    (hP : ∀ offset d, .directive offset d ∈ segs → ∀ s f s', d.field offset s = .ok (f, s') → P f) :
    ∀ f ∈ (render s segs).fields, P f := by
  induction segs generalizing s with
  | nil =>
    rw [render]
    cases s.remaining <;> simp
  | cons seg rest ih =>
    have hrest : ∀ s, ∀ f ∈ (render s rest).fields, P f := fun s =>
      ih s fun offset d hd => hP offset d (List.mem_cons_of_mem seg hd)
    cases seg with
    | literal b => exact List.forall_mem_cons.2 ⟨hplain b, hrest s⟩
    | directive offset d =>
      rw [render]
      cases hf : d.field offset s with
      | error e => simp
      | ok r =>
        have hfirst : P r.1 := hP offset d List.mem_cons_self s r.1 r.2 hf
        exact List.forall_mem_cons.2 ⟨hfirst, hrest r.2⟩

lemma lead_of_mem_rendering (fmt : Bytes) (args : List Argument) :
    ∀ f ∈ (rendering fmt args).fields, f.lead.length ≤ 2 := by
  refine forall_mem_render _ (fun b => Nat.zero_le 2) ?_
  intro offset d hd s f s' hf
  rcases Directive.eq_of_field_ok hf with rfl | ⟨l, s₁, conv, a, -, hconv⟩
  · exact Nat.zero_le 2
  · exact (Conversion.lead_and_width hconv).1

/-- The widths that a format writes out are at most half the range of a word. -/
def NarrowWidths (fmt : Bytes) : Prop :=
  ∀ offset d n, .directive offset d ∈ segments 0 fmt → d.width = .number n → n.toNat ≤ maxLength + 1

lemma width_of_mem_rendering {fmt : Bytes} (hfmt : NarrowWidths fmt) (args : List Argument) :
    ∀ f ∈ (rendering fmt args).fields, f.width.toNat ≤ maxLength + 1 := by
  refine forall_mem_render _ (fun b => Nat.zero_le _) ?_
  intro offset d hd s f s' hf
  rcases Directive.eq_of_field_ok hf with rfl | ⟨l, s₁, conv, a, hl, hconv⟩
  · exact Nat.zero_le _
  · obtain ⟨fl, s₂, hw⟩ := Directive.width_of_layout_ok hl
    rw [(Conversion.lead_and_width hconv).2]
    exact Amount.toWidth_le hw fun n hn => hfmt offset d n hd hn

end Format

open Format

/-- A call stops in an arithmetic overflow exactly if one of the sums of lengths wraps.  Such a sum,
cut to a word, would be less than what the buffer holds.  No sum wraps if the format writes out no
width of more than half the range of a word, whatever the arguments are; and in any case the buffer
keeps what it had, with a part of the rendering behind it. -/
theorem formatInto_wraps_iff (buffer fmt : Bytes) (args : List Argument)
    (h : buffer.length ≤ maxLength) :
    ((formatInto buffer fmt args).2 = .error (.panic .arithmeticOverflow) ↔
      ∃ sum ∈ sums buffer.length (rendering fmt args).fields, Wraps sum) ∧
    (∀ sum ∈ sums buffer.length (rendering fmt args).fields, Wraps sum →
      (sum.1 + sum.2) % 0x1_0000_0000_0000_0000 < sum.1) ∧
    (NarrowWidths fmt → ∀ sum ∈ sums buffer.length (rendering fmt args).fields, ¬Wraps sum) ∧
    ∃ written, (formatInto buffer fmt args).1 = buffer ++ written ∧
      written <+: (rendering fmt args).fields.flatMap Field.bytes := by
  have hlead := lead_of_mem_rendering fmt args
  refine ⟨?_, ?_, ?_, ?_⟩
  · rw [← emit_wraps_iff h hlead, formatInto_eq, Rendering.writeTo]
    cases (emit buffer.length (rendering fmt args).fields).2 with
    | none => cases (rendering fmt args).stop <;> simp
    | some panic => simp
  · exact forall_mem_sums h fun f hf length _ sum => Field.wrapped_lt (hlead f hf)
  · intro hfmt
    have hwidth := width_of_mem_rendering hfmt args
    exact forall_mem_sums h fun f hf length _ sum => Field.not_wraps (hlead f hf) (hwidth f hf)
  · exact ⟨_, rfl, emit_isPrefix buffer.length _⟩

/-- The greatest width that is harmless meets the limit of a buffer and lets no sum wrap. -/
theorem formatInto_wraps_iff_harmless :
    let fmt := Ascii.bytes "a%9223372036854775808s"
    let args := [Argument.bytes []]
    ([] : Bytes).length ≤ maxLength ∧ NarrowWidths fmt ∧
      formatInto [] fmt args = ([0x61], .error (.panic .capacityOverflow)) ∧
      ∀ sum ∈ sums 0 (rendering fmt args).fields, ¬Wraps sum := by
  intro fmt args
  have hsegments : segments 0 fmt =
      [.literal 0x61,
        .directive 1 ⟨{}, .number 0x8000_0000_0000_0000, none, .conversion .string⟩] := by
    decide +kernel
  have hfmt : NarrowWidths fmt := by
    intro offset d n hd hn
    simp only [hsegments, List.mem_cons, reduceCtorEq, List.not_mem_nil, or_false, false_or,
      Segment.directive.injEq] at hd
    rw [hd.2, Amount.number.injEq] at hn
    rw [← hn]
    decide
  obtain ⟨-, -, hharmless, -⟩ := formatInto_wraps_iff [] fmt args (by decide)
  exact ⟨by decide, hfmt, by decide +kernel, hharmless hfmt⟩

/-- One byte of text before the greatest width: the sum of the two needs a 65th bit. -/
theorem sum_wraps_behind_text :
    let fmt := Ascii.bytes "a%18446744073709551615s"
    let args := [Argument.bytes []]
    (1, 0xFFFF_FFFF_FFFF_FFFF) ∈ sums 0 (rendering fmt args).fields ∧
      Wraps (1, 0xFFFF_FFFF_FFFF_FFFF) ∧
      formatInto [] fmt args = ([0x61], .error (.panic .arithmeticOverflow)) := by
  intro fmt args
  exact ⟨by decide +kernel, by unfold Wraps; decide, by decide +kernel⟩

end RuntimeSupport

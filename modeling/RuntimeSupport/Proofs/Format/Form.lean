import RuntimeSupport.Proofs.Format.Emission
import RuntimeSupport.Proofs.Format.Supply

/-!
# The form that a directive asks for

A directive writes its argument in a form: with flags, a width and a precision.  `Spelling.Asks`
says in which one, by the text of the directive and by exact numbers.  A numeral of the text is cut
to a word when it is read (`Layout.Saturates`).  That shows in no output: what would be as wide as
the largest word fits no buffer.

The main statements are `Spelling.Asks.exists_layout` and `Spelling.format_text_eq_ok_iff`, which
says what a format of one directive writes.
-/

namespace RuntimeSupport.Format

open Ascii

/-! ## Forms -/

/-- The form in which an argument is written. -/
structure Form where
  /-- The flags. -/
  flags : Flags
  /-- The least length of what is written. -/
  width : Nat
  /-- The precision, if there is one. -/
  precision : Option Nat
  deriving DecidableEq, Repr

/-- The flags that are among the given bytes. -/
def Flags.among (bs : Bytes) : Flags where
  left := bs.contains (code '-')
  zero := bs.contains (code '0')
  plus := bs.contains (code '+')
  space := bs.contains (code ' ')
  alternate := bs.contains (code '#')

/-- A width or a precision takes the given arguments and stands for a number: that of its digits, or
that of the argument that a star takes. -/
inductive Stands : Bytes → List Argument → Int → Prop
  | digits {ds : Bytes} (h : ∀ d ∈ ds, isDigit d) :
      Stands ds [] (Numeral.value .decimal (ds.map digitValue))
  | star {a : Argument} {v : Int64} (h : a.star? = some v) : Stands [code '*'] [a] v.toInt

/-- The flags of a directive, one more of which a negative width stands for. -/
def Spelling.flagsWith (s : Spelling) (w : Int) : Flags :=
  { Flags.among s.flags with left := s.flags.contains (code '-') || w < 0 }

/-- A directive takes the given arguments for its stars and asks for a form.  A negative width is
one to fill after, and a negative precision is none. -/
inductive Spelling.Asks (s : Spelling) : List Argument → Form → Prop
  | plain {as : List Argument} {w : Int} (hw : Stands s.width as w) (hp : s.precision = none) :
      s.Asks as ⟨s.flagsWith w, w.natAbs, none⟩
  | precise {as bs : List Argument} {w p : Int} {t : Bytes} (hw : Stands s.width as w)
      (hp : s.precision = some t) (ht : Stands t bs p) :
      s.Asks (as ++ bs) ⟨s.flagsWith w, w.natAbs, if p < 0 then none else some p.natAbs⟩

/-! ## Flags are read in any order and number -/

lemma Flags.getD_add? (f : Flags) (b : UInt8) :
    (f.add? b).getD f = ⟨f.left || code '-' == b, f.zero || code '0' == b, f.plus || code '+' == b,
      f.space || code ' ' == b, f.alternate || code '#' == b⟩ := by
  unfold Flags.add?
  split_ifs with h₁ h₂ h₃ h₄ h₅
  · subst h₁
    simp [code]
  · subst h₂
    simp [code]
  · subst h₃
    simp [code]
  · subst h₄
    simp [code]
  · subst h₅
    simp [code]
  · simp [beq_eq_false_iff_ne.2 (Ne.symm h₁), beq_eq_false_iff_ne.2 (Ne.symm h₂),
      beq_eq_false_iff_ne.2 (Ne.symm h₃), beq_eq_false_iff_ne.2 (Ne.symm h₄),
      beq_eq_false_iff_ne.2 (Ne.symm h₅)]

lemma Flags.addAll_eq (f : Flags) (bs : Bytes) :
    f.addAll bs = ⟨f.left || bs.contains (code '-'), f.zero || bs.contains (code '0'),
      f.plus || bs.contains (code '+'), f.space || bs.contains (code ' '),
      f.alternate || bs.contains (code '#')⟩ := by
  induction bs generalizing f with
  | nil => simp [Flags.addAll]
  | cons b bs ih =>
    have hstep : f.addAll (b :: bs) = ((f.add? b).getD f).addAll bs := rfl
    rw [hstep, f.getD_add?, ih]
    simp only [List.contains_cons, Bool.or_assoc]

lemma Flags.addAll_empty (bs : Bytes) : ({} : Flags).addAll bs = Flags.among bs := by
  simp only [Flags.addAll_eq, Bool.false_or]
  rfl

/-! ## Numerals are cut to a word -/

lemma toNat_decimalFrom (n : UInt64) (m : Nat) (ds : Bytes)
    (h : n.toNat = min m Word.largest.toNat) :
    (decimalFrom n ds).toNat =
      min (ds.foldl (fun m d => m * 10 + digitValue d) m) Word.largest.toNat := by
  induction ds generalizing n m with
  | nil => exact h
  | cons d ds ih =>
    refine ih _ _ ?_
    -- a number that has been cut stays cut, since every digit makes it greater
    have hcut : Word.largest.toNat = 0xFFFF_FFFF_FFFF_FFFF := Word.toNat_largest
    rw [Word.toNat_saturate, h, hcut]
    show min (min m _ * 10 + digitValue d) _ = min (m * 10 + digitValue d) _
    omega

lemma toNat_decimalFrom_zero (ds : Bytes) :
    (decimalFrom 0 ds).toNat =
      min (Numeral.value .decimal (ds.map digitValue)) Word.largest.toNat := by
  rw [toNat_decimalFrom 0 0 ds (by decide), Numeral.value, List.foldl_map]
  rfl

/-- The layout that a form comes to. -/
structure Layout.Saturates (l : Layout) (form : Form) : Prop where
  flags : l.flags = form.flags
  width : l.width.toNat = min form.width Word.largest.toNat
  precision : l.precision.map UInt64.toNat =
    form.precision.map fun p => min p Word.largest.toNat

namespace Stands

variable {bs : Bytes} {as : List Argument} {w : Int}

lemma ne_star {ds : Bytes} (h : ∀ d ∈ ds, isDigit d) : ds ≠ [code '*'] := by
  rintro rfl
  have hstar := h (code '*') List.mem_cons_self
  rw [isDigit_star] at hstar
  cases hstar

lemma star_eq {a : Argument} {v : Int64} (h : a.star? = some v) (k : Nat) (rest : List Argument) :
    Supply.star ⟨k, a :: rest⟩ = .ok (v, ⟨k + 1, rest⟩) := by
  rw [Supply.star, Supply.next]
  simp only [bind, Except.bind, h]

lemma toWidth (h : Stands bs as w) (flags : Flags) (k : Nat) (rest : List Argument) :
    ∃ width, (Amount.ofText bs).toWidth flags ⟨k, as ++ rest⟩ =
        .ok ({ flags with left := flags.left || w < 0 }, width, ⟨k + as.length, rest⟩) ∧
      width.toNat = min w.natAbs Word.largest.toNat := by
  cases h with
  | digits hd =>
    refine ⟨decimalFrom 0 bs, ?_, toNat_decimalFrom_zero bs⟩
    rw [Amount.ofText, if_neg (ne_star hd)]
    have hpositive : ¬((Numeral.value .decimal (bs.map digitValue) : Nat) : Int) < 0 := by omega
    simp [Amount.toWidth, hpositive]
  | @star a v ha =>
    refine ⟨UInt64.ofNat v.toInt.natAbs, ?_, ?_⟩
    · rw [Amount.ofText, if_pos rfl, Amount.toWidth, List.singleton_append, star_eq ha k rest]
      simp only [Int64.lt_iff_toInt_lt]
      rfl
    · have hlow := v.le_toInt
      have hhigh := v.toInt_lt
      rw [UInt64.toNat_ofNat', Word.toNat_largest]
      omega

lemma toPrecision (h : Stands bs as w) (k : Nat) (rest : List Argument) :
    ∃ p, (Amount.ofText bs).toPrecision ⟨k, as ++ rest⟩ = .ok (p, ⟨k + as.length, rest⟩) ∧
      p.map UInt64.toNat =
        (if w < 0 then none else some w.natAbs).map fun p => min p Word.largest.toNat := by
  cases h with
  | digits hd =>
    have hpositive : ¬((Numeral.value .decimal (bs.map digitValue) : Nat) : Int) < 0 := by omega
    refine ⟨some (decimalFrom 0 bs), ?_, ?_⟩
    · rw [Amount.ofText, if_neg (ne_star hd)]
      rfl
    · rw [if_neg hpositive]
      exact congrArg some (toNat_decimalFrom_zero bs)
  | @star a v ha =>
    refine ⟨if v < 0 then none else some v.toUInt64, ?_, ?_⟩
    · rw [Amount.ofText, if_pos rfl, Amount.toPrecision, List.singleton_append, star_eq ha k rest]
      rfl
    · have hsign : v < 0 ↔ v.toInt < 0 := Int64.lt_iff_toInt_lt
      by_cases hv : v < 0
      · rw [if_pos hv, if_pos (hsign.1 hv)]
        rfl
      · have hhigh := v.toInt_lt
        have hpositive : 0 ≤ v.toInt := Int.not_lt.1 fun h => hv (hsign.2 h)
        have hnat : v.toUInt64.toNat = v.toNatClampNeg :=
          Int64.toNat_toUInt64_of_le (Int64.not_lt.1 hv)
        rw [if_neg hv, if_neg fun h => hv (hsign.2 h), Option.map_some, Option.map_some, hnat,
          Int64.toNatClampNeg, Word.toNat_largest]
        congr 1
        omega

end Stands

/-! ## One directive -/

namespace Spelling

variable {s : Spelling} {stars : List Argument} {form : Form}

/-- Once the stars have taken their arguments, the layout is the form that is asked for. -/
theorem Asks.exists_layout (h : s.Asks stars form) (k : Nat) (rest : List Argument) :
    ∃ l, s.directive.layout ⟨k, stars ++ rest⟩ = .ok (l, ⟨k + stars.length, rest⟩) ∧
      l.Saturates form := by
  have hflags : ∀ w : Int,
      { ({} : Flags).addAll s.flags with left := (({} : Flags).addAll s.flags).left || w < 0 } =
        s.flagsWith w := by
    intro w
    rw [Flags.addAll_empty]
    rfl
  cases h with
  | @plain as w hw hp =>
    obtain ⟨width, hread, hwidth⟩ := hw.toWidth (({} : Flags).addAll s.flags) k rest
    refine ⟨⟨s.flagsWith w, width, none⟩, ?_, rfl, hwidth, rfl⟩
    rw [Directive.layout, directive, hp, hread, hflags]
    rfl
  | @precise as bs w p t hw hp ht =>
    obtain ⟨width, hread, hwidth⟩ := hw.toWidth (({} : Flags).addAll s.flags) k (bs ++ rest)
    obtain ⟨precision, hread', hprecision⟩ := ht.toPrecision (k + as.length) rest
    refine ⟨⟨s.flagsWith w, width, precision⟩, ?_, rfl, hwidth, hprecision⟩
    rw [Directive.layout, directive, hp, List.append_assoc, hread, hflags, List.length_append,
      ← Nat.add_assoc]
    show (Amount.ofText t).toPrecision ⟨k + as.length, bs ++ rest⟩ >>= _ = _
    rw [hread']
    rfl

lemma segments_text (s : Spelling) :
    segments 0 (code '%' :: s.text) = [.directive 0 s.directive] := by
  have hread := s.read_text []
  rw [List.append_nil] at hread
  rw [segments_percent, hread, segments]

/-- A format of one directive comes to the field of its conversion, unless the argument is of a kind
that is refused. -/
lemma rendering_text {conv : Conversion} {l : Layout} {a : Argument}
    (hletter : s.letter = .conversion conv)
    (hlayout : s.directive.layout ⟨0, stars ++ [a]⟩ = .ok (l, ⟨stars.length, [a]⟩)) :
    rendering (code '%' :: s.text) (stars ++ [a]) =
      match conv.field? l a with
      | some f => ⟨[f], .ok ()⟩
      | none => ⟨[], .error (.argumentMismatch stars.length conv.letter)⟩ := by
  have htail : s.directive.tail = .conversion conv := by
    rw [directive, hletter]
    rfl
  rw [rendering, s.segments_text, render, Directive.field, hlayout]
  simp only [bind, Except.bind, htail, Supply.next]
  cases conv.field? l a with
  | none => rfl
  | some f => rfl

/-- A format of one directive writes the field of its conversion, if there is one and it fits a
buffer. -/
theorem format_text_eq_ok_iff {conv : Conversion} {l : Layout} {a : Argument}
    (hletter : s.letter = .conversion conv)
    (hlayout : s.directive.layout ⟨0, stars ++ [a]⟩ = .ok (l, ⟨stars.length, [a]⟩)) (out : Bytes) :
    format (code '%' :: s.text) (stars ++ [a]) = .ok out ↔
      ∃ f, conv.field? l a = some f ∧ out = f.bytes ∧ out.length ≤ maxLength := by
  rw [format_eq_ok_iff_fields, rendering_text hletter hlayout]
  cases conv.field? l a with
  | none => simp
  | some f =>
    simp only [List.flatMap_singleton, true_and]
    constructor
    · exact fun h => ⟨f, rfl, h⟩
    · rintro ⟨g, ⟨⟩, h⟩
      exact h

end Spelling

end RuntimeSupport.Format

import RuntimeSupport.Proofs.Format.Single

/-!
# A star means what is written for it

A directive with a star takes an argument for its width or its precision.  It does what the
directive does that has a numeral there (`Spelling.replace`): the star of a width becomes the
literal of its magnitude, with a minus among the flags if it is negative, and that of a precision
becomes its literal, or no precision at all.

Both directives ask for the same form, the one with the star by one argument more
(`Spelling.asks_replace_iff`).  What a directive writes depends on that form and on the argument of
its letter alone, so both write the same, by themselves (`Spelling.format_text_replace_iff`) and in
a format (`Spelling.format_replace_iff`).

The main statement is `format_star_eq_ok_iff`.
-/

namespace RuntimeSupport

namespace Numeral

open Ascii

/-! ## Decimal literals -/

/-- The decimal literal of a number, which starts with a zero for zero only. -/
def literal (n : Nat) : Bytes := ascii .decimal false n

lemma isDigit_glyph {d : Nat} (h : d < 10) : isDigit (glyph false d) := by
  have hall : ∀ d < 10, isDigit (glyph false d) := by decide +kernel
  exact hall d h

lemma digitValue_glyph {d : Nat} (h : d < 10) : digitValue (glyph false d) = d := by
  have hall : ∀ d < 10, digitValue (glyph false d) = d := by decide +kernel
  exact hall d h

lemma isDigit_of_mem_literal (n : Nat) : ∀ b ∈ literal n, isDigit b := by
  intro b hb
  obtain ⟨d, hd, rfl⟩ := List.mem_map.1 hb
  exact isDigit_glyph (lt_base_of_mem_digits hd)

lemma map_digitValue_literal (n : Nat) : (literal n).map digitValue = digits .decimal n := by
  rw [literal, ascii, List.map_map]
  refine (List.map_congr_left fun d hd => ?_).trans (List.map_id _)
  exact digitValue_glyph (lt_base_of_mem_digits hd)

lemma head?_digits {r : Radix} {n : Nat} (hn : n ≠ 0) : (digits r n).head? ≠ some 0 := by
  fun_induction digits r n with
  | case1 n h => simpa using hn
  | case2 n h ih =>
    have hbase := r.two_le_base
    have hquotient : n / r.base ≠ 0 := (Nat.div_pos (Nat.not_lt.1 h) (by omega)).ne'
    rw [List.head?_append_of_ne_nil _ (digits_ne_nil r _)]
    exact ih hquotient

lemma head?_literal {n : Nat} (hn : n ≠ 0) : (literal n).head? ≠ some (code '0') := by
  intro hhead
  refine head?_digits (r := .decimal) hn ?_
  rw [← map_digitValue_literal, List.head?_map, hhead]
  decide

end Numeral

namespace Format

open Ascii Numeral

variable {s : Spelling} {a : Argument} {v : Int} {f₁ f₂ out : Bytes} {args : List Argument}

/-! ## Stars and what is written for them -/

/-- The number that an argument gives to a star.  One that is too large for a signed word counts as
the largest one. -/
def Argument.amount? : Argument → Option Int
  | .int v => some v.toInt
  | .uint v => some (min v.toNat 0x7FFF_FFFF_FFFF_FFFF : Nat)
  | .char _ | .bytes _ | .pointer _ => none

/-- The places of a directive where a star can stand. -/
inductive Place
  /-- The width. -/
  | width
  /-- The precision. -/
  | precision
  deriving DecidableEq, Repr

namespace Spelling

/-- There is a star in a place. -/
def HasStar (s : Spelling) : Place → Prop
  | .width => s.width = [code '*']
  | .precision => s.precision = some [code '*']

/-- The number of arguments that are taken before that of a star. -/
def taken (s : Spelling) : Place → Nat
  | .width => 0
  | .precision => (starDemands s.width).length

/-- The directive with a width written out: the literal of its magnitude, or nothing for zero, and a
minus among the flags if it is negative. -/
def withWidth (s : Spelling) (w : Int) : Spelling where
  flags := s.flags ++ if w < 0 then [code '-'] else []
  width := if w = 0 then [] else literal w.natAbs
  precision := s.precision
  modifiers := s.modifiers
  letter := s.letter
  isFlag_flags := by
    intro b hb
    rcases List.mem_append.1 hb with hb | hb
    · exact s.isFlag_flags b hb
    · split at hb
      · obtain rfl := List.mem_singleton.1 hb
        decide
      · cases hb
  isWidth_width := by
    split
    · exact .inr ⟨by simp, by simp⟩
    · next hw =>
      exact .inr ⟨isDigit_of_mem_literal _, head?_literal (Int.natAbs_ne_zero.2 hw)⟩
  isPrecision_precision := s.isPrecision_precision
  isLengthModifier_modifiers := s.isLengthModifier_modifiers

/-- The directive with a precision written out: a point and its literal, or nothing if it is
negative. -/
def withPrecision (s : Spelling) (p : Int) : Spelling where
  flags := s.flags
  width := s.width
  precision := if p < 0 then none else some (literal p.natAbs)
  modifiers := s.modifiers
  letter := s.letter
  isFlag_flags := s.isFlag_flags
  isWidth_width := s.isWidth_width
  isPrecision_precision := by
    intro t ht
    split at ht
    · cases ht
    · obtain rfl := Option.some.inj ht
      exact .inr (isDigit_of_mem_literal _)
  isLengthModifier_modifiers := s.isLengthModifier_modifiers

/-- The directive with a number written out in place of a star. -/
def replace (s : Spelling) (v : Int) : Place → Spelling
  | .width => s.withWidth v
  | .precision => s.withPrecision v

end Spelling

lemma Argument.map_star? (a : Argument) : a.star?.map Int64.toInt = a.amount? := by
  cases a with
  | uint v =>
    refine congrArg some ?_
    split
    · next h =>
      have hword : v.toInt64.toInt = (v.toNat : Int).bmod (2 ^ 64) :=
        BitVec.toInt_eq_toNat_bmod v.toBitVec
      rw [hword, Int.bmod_eq_of_le (by omega) (by omega)]
      omega
    · next h =>
      have hmax : Int64.maxValue.toInt = 0x7FFF_FFFF_FFFF_FFFF := by decide
      rw [hmax]
      omega
  | int v => rfl
  | char c => rfl
  | bytes bs => rfl
  | pointer p => rfl

/-! ## What stars and literals stand for -/

lemma stands_star_iff {as : List Argument} :
    Stands [code '*'] as v ↔ ∃ a, as = [a] ∧ a.amount? = some v := by
  constructor
  · intro h
    cases h with
    | digits hd => exact absurd rfl (Stands.ne_star hd)
    | @star a w hw => exact ⟨a, rfl, by rw [← a.map_star?, hw, Option.map_some]⟩
  · rintro ⟨a, rfl, ha⟩
    rw [← a.map_star?, Option.map_eq_some_iff] at ha
    obtain ⟨w, hw, rfl⟩ := ha
    exact .star hw

lemma stands_digits_iff {ds : Bytes} {as : List Argument} (hds : ∀ d ∈ ds, isDigit d) :
    Stands ds as v ↔ as = [] ∧ v = value .decimal (ds.map digitValue) := by
  constructor
  · intro h
    cases h with
    | digits _ => exact ⟨rfl, rfl⟩
    | star _ => exact absurd rfl (Stands.ne_star hds)
  · rintro ⟨rfl, rfl⟩
    exact .digits hds

lemma stands_literal_iff {n : Nat} {as : List Argument} :
    Stands (literal n) as v ↔ as = [] ∧ v = n := by
  rw [stands_digits_iff (isDigit_of_mem_literal n), map_digitValue_literal, value_digits]

lemma limits_star_iff {as : List Argument} {q : Option Nat} :
    Limits (some [code '*']) as q ↔
      ∃ a p, as = [a] ∧ a.amount? = some p ∧ q = if p < 0 then none else some p.natAbs := by
  constructor
  · rintro ⟨⟩
    rename_i p h
    obtain ⟨a, rfl, ha⟩ := stands_star_iff.1 h
    exact ⟨a, p, rfl, ha, rfl⟩
  · rintro ⟨a, p, rfl, ha, rfl⟩
    exact .some (stands_star_iff.2 ⟨a, rfl, ha⟩)

/-- What is written for a precision limits what is written as the star does. -/
lemma limits_literal_iff {p : Int} {as : List Argument} {q : Option Nat} :
    Limits (if p < 0 then none else some (literal p.natAbs)) as q ↔
      as = [] ∧ q = if p < 0 then none else some p.natAbs := by
  by_cases hp : p < 0
  · rw [if_pos hp, if_pos hp]
    constructor
    · rintro ⟨⟩
      exact ⟨rfl, rfl⟩
    · rintro ⟨rfl, rfl⟩
      exact .none
  · rw [if_neg hp, if_neg hp]
    have hnat : ¬((p.natAbs : Int) < 0) := by omega
    constructor
    · rintro ⟨⟩
      rename_i p' h
      obtain ⟨rfl, rfl⟩ := stands_literal_iff.1 h
      exact ⟨rfl, by rw [if_neg hnat, Int.natAbs_natCast]⟩
    · rintro ⟨rfl, rfl⟩
      have h :=
        Limits.some (stands_literal_iff.2 ⟨rfl, rfl⟩ : Stands (literal p.natAbs) [] p.natAbs)
      rwa [if_neg hnat, Int.natAbs_natCast] at h

namespace Spelling

lemma stands_withWidth_iff {as : List Argument} {w : Int} :
    Stands (s.withWidth v).width as w ↔ as = [] ∧ w = v.natAbs := by
  by_cases hv : v = 0
  · subst hv
    have hwidth : (s.withWidth 0).width = [] := rfl
    rw [hwidth]
    exact stands_digits_iff (List.forall_mem_nil _)
  · have hwidth : (s.withWidth v).width = literal v.natAbs := if_neg hv
    rw [hwidth, stands_literal_iff]

/-- A minus among the flags and a negative width are the same. -/
lemma flagsWith_withWidth (s : Spelling) (v : Int) :
    (s.withWidth v).flagsWith v.natAbs = s.flagsWith v := by
  by_cases hv : v < 0
  · simp [flagsWith, Flags.among, withWidth, hv, code]
  · have hnat : ¬((v.natAbs : Int) < 0) := by omega
    have hflags : (s.withWidth v).flags = s.flags := by simp [withWidth, hv]
    simp only [flagsWith, hflags, hv, hnat]

/-- With a literal in place of a star, a directive asks for the same form and takes one argument
less. -/
lemma asks_replace_iff {place : Place} (h : s.HasStar place) {stars : List Argument} {form : Form} :
    s.Asks stars form ↔ ∃ pre a post, stars = pre ++ a :: post ∧ pre.length = s.taken place ∧
      ∃ v, a.amount? = some v ∧ (s.replace v place).Asks (pre ++ post) form := by
  simp only [asks_iff]
  cases place with
  | width =>
    obtain h : s.width = [code '*'] := h
    rw [h]
    constructor
    · rintro ⟨as, bs, w, q, rfl, hw, hq, rfl⟩
      obtain ⟨a, rfl, ha⟩ := stands_star_iff.1 hw
      refine ⟨[], a, bs, rfl, rfl, w, ha, [], bs, _, q, rfl, stands_withWidth_iff.2 ⟨rfl, rfl⟩, hq,
        ?_⟩
      rw [replace, flagsWith_withWidth, Int.natAbs_natCast]
    · rintro ⟨pre, a, post, rfl, hpre, v, ha, as, bs, w, q, hpost, hw, hq, rfl⟩
      obtain rfl := List.eq_nil_of_length_eq_zero hpre
      obtain ⟨rfl, rfl⟩ := stands_withWidth_iff.1 hw
      refine ⟨[a], bs, v, q, congrArg (a :: ·) hpost, stands_star_iff.2 ⟨a, rfl, ha⟩, hq, ?_⟩
      rw [replace, flagsWith_withWidth, Int.natAbs_natCast]
  | precision =>
    obtain h : s.precision = some [code '*'] := h
    rw [h]
    constructor
    · rintro ⟨as, bs, w, q, rfl, hw, hq, rfl⟩
      obtain ⟨a, p, rfl, ha, hq⟩ := limits_star_iff.1 hq
      exact ⟨as, a, [], rfl, hw.length_eq, p, ha, as, [], w, q, rfl, hw,
        limits_literal_iff.2 ⟨rfl, hq⟩, rfl⟩
    · rintro ⟨pre, a, post, rfl, hpre, v, ha, as, bs, w, q, hstars, hw, hq, rfl⟩
      obtain ⟨rfl, hlimit⟩ := limits_literal_iff.1 hq
      obtain ⟨rfl, rfl⟩ := List.append_inj hstars (hpre.trans hw.length_eq.symm)
      exact ⟨pre, [a], w, q, rfl, hw, limits_star_iff.2 ⟨a, v, rfl, ha, hlimit⟩, rfl⟩

end Spelling

/-! ## What a directive with a star writes -/

/-- What is cut off in front of an argument list stays in front of a part that is longer. -/
lemma exists_behind {pre post b more : List Argument} (h : pre ++ post = b ++ more)
    (hle : pre.length ≤ b.length) : ∃ c, b = pre ++ c ∧ post = c ++ more := by
  have hprefix : b <+: pre ++ post := h ▸ List.prefix_append b more
  obtain ⟨c, rfl⟩ := List.prefix_of_prefix_length_le (List.prefix_append pre post) hprefix hle
  rw [List.append_assoc] at h
  exact ⟨c, rfl, List.append_cancel_left h⟩

namespace Spelling

variable {stars : List Argument} {form : Form}

lemma taken_le_length {place : Place} (h : (s.replace v place).Asks stars form) :
    s.taken place ≤ stars.length := by
  cases place with
  | width => exact Nat.zero_le _
  | precision =>
    obtain ⟨as, bs, w, q, rfl, hw, -⟩ := asks_iff.1 h
    have htaken : s.taken .precision = as.length := hw.length_eq.symm
    rw [List.length_append]
    omega

/-- A directive with a star writes what it writes with a literal in its place. -/
lemma format_text_replace_iff {place : Place} (h : s.HasStar place) (args : List Argument)
    (out : Bytes) :
    format (code '%' :: s.text) args = .ok out ↔ ∃ pre a post, args = pre ++ a :: post ∧
      pre.length = s.taken place ∧ ∃ v, a.amount? = some v ∧
        format (code '%' :: (s.replace v place).text) (pre ++ post) = .ok out := by
  have hletter : ∀ v, (s.replace v place).letter = s.letter := by
    intro v
    cases place <;> rfl
  constructor
  · intro hformat
    obtain ⟨stars, form, rest, l, f, rfl, hform, hl, hf, hout⟩ := (format_text_iff _ _).1 hformat
    obtain ⟨pre, a, post, rfl, hpre, v, ha, hform⟩ := (asks_replace_iff h).1 hform
    refine ⟨pre, a, post ++ rest, by simp, hpre, v, ha, ?_⟩
    rw [← List.append_assoc]
    exact (format_text_iff _ _).2 ⟨_, form, rest, l, f, rfl, hform, hl, hletter v ▸ hf, hout⟩
  · rintro ⟨pre, a, post, rfl, hpre, v, ha, hformat⟩
    obtain ⟨stars, form, rest, l, f, hargs, hform, hl, hf, hout⟩ := (format_text_iff _ _).1 hformat
    obtain ⟨c, rfl, rfl⟩ := exists_behind hargs (hpre.trans_le (taken_le_length hform))
    have hasks := (asks_replace_iff h).2 ⟨pre, a, c, rfl, hpre, v, ha, hform⟩
    exact (format_text_iff _ _).2 ⟨pre ++ a :: c, form, rest, l, f, by simp, hasks, hl,
      hletter v ▸ hf, hout⟩

end Spelling

/-- An argument at a position, and what is left without it. -/
lemma exists_getElem?_iff {k : Nat} (p : Argument → List Argument → Prop) :
    (∃ a, args[k]? = some a ∧ p a (args.eraseIdx k)) ↔
      ∃ pre a post, args = pre ++ a :: post ∧ pre.length = k ∧ p a (pre ++ post) := by
  constructor
  · rintro ⟨a, ha, h⟩
    obtain ⟨hk, rfl⟩ := List.getElem?_eq_some_iff.1 ha
    have hargs : args = args.take k ++ args[k] :: args.drop (k + 1) := by simp
    rw [List.eraseIdx_eq_take_drop_succ] at h
    exact ⟨_, _, _, hargs, List.length_take_of_le hk.le, h⟩
  · rintro ⟨pre, a, post, rfl, rfl, h⟩
    refine ⟨a, by simp, ?_⟩
    rwa [List.eraseIdx_append_of_length_le (Nat.le_refl _), Nat.sub_self, List.eraseIdx_cons_zero]

/-- The same for a directive in a format, where other directives may take arguments before it. -/
lemma Spelling.format_replace_iff {place : Place} (h : s.HasStar place) (hf₁ : Whole f₁)
    (f₂ : Bytes) (args : List Argument) (out : Bytes) :
    format (f₁ ++ code '%' :: (s.text ++ f₂)) args = .ok out ↔
      ∃ a, args[argumentCount f₁ + s.taken place]? = some a ∧ ∃ v, a.amount? = some v ∧
        format (f₁ ++ code '%' :: ((s.replace v place).text ++ f₂))
          (args.eraseIdx (argumentCount f₁ + s.taken place)) = .ok out := by
  rw [exists_getElem?_iff fun a rest => ∃ v, a.amount? = some v ∧
    format (f₁ ++ code '%' :: ((s.replace v place).text ++ f₂)) rest = .ok out]
  simp only [format_around_eq_ok_iff hf₁]
  constructor
  · rintro ⟨a₁, b, a₂, o₁, o, o₂, rfl, h₁, ho, h₂, hout⟩
    have hcount := length_eq_argumentCount (format_eq_ok_iff_fields.1 h₁).1
    obtain ⟨pre, a, post, rfl, hpre, v, ha, ho⟩ := (format_text_replace_iff h _ _).1 ho
    refine ⟨a₁ ++ pre, a, post ++ a₂, by simp, ?_, v, ha, ?_⟩
    · rw [List.length_append, hcount, hpre]
    · exact ⟨a₁, pre ++ post, a₂, o₁, o, o₂, by simp, h₁, ho, h₂, hout⟩
  · rintro ⟨pre, a, post, rfl, hpre, v, ha, a₁, b, a₂, o₁, o, o₂, hargs, h₁, ho, h₂, hout⟩
    have hcount := length_eq_argumentCount (format_eq_ok_iff_fields.1 h₁).1
    -- the format in front takes its arguments first, and then the directive those before the star
    obtain ⟨c, rfl, hbehind⟩ := exists_behind hargs.symm (by omega)
    have hc : c.length = s.taken place := by
      rw [List.length_append] at hpre
      omega
    have hlong : s.taken place ≤ b.length := by
      obtain ⟨stars, form, rest, l, f, rfl, hform, -⟩ := (format_text_iff _ _).1 ho
      exact (taken_le_length hform).trans (by simp)
    obtain ⟨d, rfl, rfl⟩ := exists_behind hbehind.symm (hc.trans_le hlong)
    refine ⟨a₁, c ++ a :: d, a₂, o₁, o, o₂, by simp, h₁, ?_, h₂, hout⟩
    exact (format_text_replace_iff h _ _).2 ⟨c, a, d, rfl, hc, v, ha, ho⟩

end Format

open Format

/-- A star means what is written for it.  In any format, a directive with a star succeeds with an
output exactly if there is an argument for the star and the format with that number written out
succeeds with the same output and one argument less; with stars in both places, both can be written
out.  What stands before the directive cuts no directive short, since otherwise the percent sign
would be the end of that one. -/
theorem format_star_eq_ok_iff {f₁ : Bytes} (hf₁ : Whole f₁) (s : Spelling) (f₂ : Bytes)
    (args : List Argument) (out : Bytes) :
    (∀ place, s.HasStar place →
      let k := argumentCount f₁ + s.taken place
      (format (f₁ ++ Ascii.code '%' :: (s.text ++ f₂)) args = .ok out ↔
        ∃ a, args[k]? = some a ∧ ∃ v, a.amount? = some v ∧
          format (f₁ ++ Ascii.code '%' :: ((s.replace v place).text ++ f₂)) (args.eraseIdx k) =
            .ok out)) ∧
    (s.HasStar .width → s.HasStar .precision →
      let k := argumentCount f₁
      (format (f₁ ++ Ascii.code '%' :: (s.text ++ f₂)) args = .ok out ↔
        ∃ a b, args[k]? = some a ∧ args[k + 1]? = some b ∧
          ∃ w p, a.amount? = some w ∧ b.amount? = some p ∧
            format (f₁ ++ Ascii.code '%' :: (((s.withWidth w).withPrecision p).text ++ f₂))
              ((args.eraseIdx k).eraseIdx k) = .ok out)) := by
  refine ⟨fun place h => Spelling.format_replace_iff h hf₁ f₂ args out, fun hwidth hprecision => ?_⟩
  intro k
  rw [Spelling.format_replace_iff hwidth hf₁]
  show (∃ a, args[k]? = some a ∧ ∃ w, a.amount? = some w ∧
    format (f₁ ++ Ascii.code '%' :: ((s.withWidth w).text ++ f₂)) (args.eraseIdx k) = .ok out) ↔ _
  -- with the width written out, the star of the precision is the first of the directive
  have hsecond : ∀ w, (s.withWidth w).HasStar .precision := fun _ => hprecision
  have htaken : ∀ w, (s.withWidth w).taken .precision = 0 := fun w =>
    (Spelling.stands_withWidth_iff.2 ⟨rfl, rfl⟩ : Stands (s.withWidth w).width [] _).length_eq.symm
  have hnext : (args.eraseIdx k)[k]? = args[k + 1]? := List.getElem?_eraseIdx_of_ge (Nat.le_refl k)
  simp only [Spelling.format_replace_iff (hsecond _) hf₁, htaken, Nat.add_zero]
  constructor
  · rintro ⟨a, ha, w, haw, b, hb, p, hbp, hformat⟩
    exact ⟨a, b, ha, hnext.symm.trans hb, w, p, haw, hbp, hformat⟩
  · rintro ⟨a, b, ha, hb, w, p, haw, hbp, hformat⟩
    exact ⟨a, ha, w, haw, b, hnext.trans hb, p, hbp, hformat⟩

/-- Both stars at once, behind a directive that takes an argument of its own: a negative width, and
a precision past the signed range, which is written out as the largest signed number. -/
theorem format_star_eq_ok_iff_both :
    let run : Bytes := [0x61, 0xFF]
    let out : Bytes := [0x41, 0x3C, 0x61, 0xFF, 0x20, 0x20, 0x20, 0x3E]
    format (Ascii.bytes "%c<%*.*s>")
        [.char 0x41, .int (-5), .uint 0xFFFF_FFFF_FFFF_FFFF, .bytes run] = .ok out ∧
      format (Ascii.bytes "%c<%-5.9223372036854775807s>") [.char 0x41, .bytes run] = .ok out := by
  intro run out
  let c : Spelling := ⟨[], [], none, [], .conversion .character, by simp, .inr ⟨by simp, by simp⟩,
    by rintro _ ⟨⟩, by simp⟩
  let s : Spelling := ⟨[], Ascii.bytes "*", some (Ascii.bytes "*"), [], .conversion .string,
    by simp, .inl rfl, by rintro _ ⟨⟩; exact .inl rfl, by simp⟩
  have hwhole : Whole (Ascii.bytes "%c<") :=
    (Template.directive c (.literal (by decide) .nil) : Template (Ascii.bytes "%c<") _).whole
  have hcount : argumentCount (Ascii.bytes "%c<") = 1 := by decide +kernel
  have hformat : format (Ascii.bytes "%c<%*.*s>")
      [.char 0x41, .int (-5), .uint 0xFFFF_FFFF_FFFF_FFFF, .bytes run] = .ok out := by
    decide +kernel
  have hiff := (format_star_eq_ok_iff hwhole s (Ascii.bytes ">")
    [.char 0x41, .int (-5), .uint 0xFFFF_FFFF_FFFF_FFFF, .bytes run] out).2 rfl rfl
  obtain ⟨a, b, ha, hb, w, p, hw, hp, hwritten⟩ := hiff.1 hformat
  rw [hcount] at ha hb hwritten
  obtain rfl := Option.some.inj ha
  obtain rfl := Option.some.inj hb
  obtain rfl := Option.some.inj hw
  obtain rfl := Option.some.inj hp
  have htext : Ascii.bytes "%c<" ++ Ascii.code '%' ::
      (((s.withWidth (-5 : Int64).toInt).withPrecision
        (min (0xFFFF_FFFF_FFFF_FFFF : UInt64).toNat 0x7FFF_FFFF_FFFF_FFFF : Nat)).text ++
          Ascii.bytes ">") =
      Ascii.bytes "%c<%-5.9223372036854775807s>" := by
    decide +kernel
  exact ⟨hformat, htext ▸ hwritten⟩

end RuntimeSupport

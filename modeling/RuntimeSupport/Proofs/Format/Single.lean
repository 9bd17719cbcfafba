import RuntimeSupport.Proofs.Format.Form
import RuntimeSupport.Proofs.Format.Parts

/-!
# A format of one directive

A format of one directive is accepted exactly if its arguments can be divided into those of its
stars, which make it ask for a form, and those of its letter, which have a field in that form; and
then it writes the field.

The main statement is `Spelling.format_text_iff`.
-/

namespace RuntimeSupport.Format

open Ascii

variable {s : Spelling} {stars rest args : List Argument} {form : Form} {l : Layout} {f : Field}

/-! ## The arguments of the stars -/

lemma Stands.length_eq {bs : Bytes} {as : List Argument} {v : Int} (h : Stands bs as v) :
    as.length = (starDemands bs).length := by
  cases h with
  | digits hd =>
    rw [starDemands, if_neg (Stands.ne_star hd)]
    rfl
  | star _ => rfl

lemma Stands.exists_of_met {bs : Bytes} {as : List Argument} (hbs : IsPrecision bs)
    (h : List.Forall₂ Demand.MetBy (starDemands bs) as) : ∃ v, Stands bs as v := by
  rcases hbs with rfl | hd
  · obtain ⟨a, as, ha, hrest, rfl⟩ := List.forall₂_cons_left_iff.1 h
    obtain rfl := List.forall₂_nil_left_iff.1 hrest
    obtain ⟨v, hv⟩ := Option.isSome_iff_exists.1 ((isSome_star? a).2 ha)
    exact ⟨_, .star hv⟩
  · rw [starDemands, if_neg (Stands.ne_star hd), List.forall₂_nil_left_iff] at h
    subst h
    exact ⟨_, .digits hd⟩

/-- A precision takes the given arguments and limits what is written to a number; if there is none,
or a negative one, there is no limit. -/
inductive Limits : Option Bytes → List Argument → Option Nat → Prop
  | none : Limits none [] none
  | some {t : Bytes} {as : List Argument} {p : Int} (h : Stands t as p) :
      Limits (some t) as (if p < 0 then Option.none else Option.some p.natAbs)

namespace Spelling

lemma asks_iff :
    s.Asks stars form ↔ ∃ as bs w q, stars = as ++ bs ∧ Stands s.width as w ∧
      Limits s.precision bs q ∧ form = ⟨s.flagsWith w, w.natAbs, q⟩ := by
  constructor
  · rintro (⟨hw, hp⟩ | ⟨hw, hp, ht⟩)
    · exact ⟨_, [], _, _, (List.append_nil _).symm, hw, hp ▸ .none, rfl⟩
    · exact ⟨_, _, _, _, rfl, hw, hp ▸ .some ht, rfl⟩
  · rintro ⟨as, bs, w, q, rfl, hw, hq, rfl⟩
    generalize hp : s.precision = t at hq
    cases hq with
    | none =>
      rw [List.append_nil]
      exact .plain hw hp
    | some ht => exact .precise hw hp ht

/-- The arguments of a directive are those of its stars and those of its letter. -/
lemma exists_asks (h : List.Forall₂ Demand.MetBy s.demands args) :
    ∃ stars form rest, args = stars ++ rest ∧ s.Asks stars form ∧
      List.Forall₂ Demand.MetBy s.letter.demands rest := by
  obtain ⟨stars, rest, rfl, hstars, hrest⟩ := exists_append_of_met h
  obtain ⟨as, bs, rfl, has, hbs⟩ := exists_append_of_met hstars
  obtain ⟨w, hw⟩ := Stands.exists_of_met s.isWidth_width.isPrecision has
  obtain ⟨q, hq⟩ : ∃ q, Limits s.precision bs q := by
    cases hp : s.precision with
    | none =>
      rw [hp] at hbs
      obtain rfl := List.forall₂_nil_left_iff.1 hbs
      exact ⟨_, .none⟩
    | some t =>
      rw [hp] at hbs
      obtain ⟨p, ht⟩ := Stands.exists_of_met (s.isPrecision_precision t hp) hbs
      exact ⟨_, .some ht⟩
  exact ⟨_, _, rest, rfl, asks_iff.2 ⟨as, bs, w, q, rfl, hw, hq, rfl⟩, hrest⟩

end Spelling

/-! ## The field of the letter -/

lemma Layout.Saturates.unique {form : Form} {l l' : Layout} (h : l.Saturates form)
    (h' : l'.Saturates form) : l = l' := by
  obtain ⟨flags, width, precision⟩ := l
  obtain ⟨flags', width', precision'⟩ := l'
  have hflags : flags = flags' := h.flags.trans h'.flags.symm
  have hwidth : width = width' := UInt64.toNat_inj.1 (h.width.trans h'.width.symm)
  have hprecision : precision = precision' :=
    Option.map_injective (fun _ _ => UInt64.toNat_inj.1) (h.precision.trans h'.precision.symm)
  rw [hflags, hwidth, hprecision]

/-- The field that a letter writes for the arguments behind those of the stars. -/
def Letter.field? (l : Layout) : Letter → List Argument → Option Field
  | .percent, [] => some (.plain [code '%'])
  | .conversion conv, [a] => conv.field? l a
  | _, _ => none

lemma Letter.exists_field {letter : Letter} {rest : List Argument}
    (h : List.Forall₂ Demand.MetBy letter.demands rest) (l : Layout) :
    ∃ f, letter.field? l rest = some f := by
  cases letter with
  | percent =>
    obtain rfl := List.forall₂_nil_left_iff.1 h
    exact ⟨_, rfl⟩
  | conversion conv =>
    obtain ⟨a, as, ha, hrest, rfl⟩ := List.forall₂_cons_left_iff.1 h
    obtain rfl := List.forall₂_nil_left_iff.1 hrest
    exact Option.isSome_iff_exists.1 ((conv.isSome_field? l a).2 ha)

namespace Spelling

lemma rendering_of_asks (hform : s.Asks stars form) (hl : l.Saturates form)
    (hf : s.letter.field? l rest = some f) :
    rendering (code '%' :: s.text) (stars ++ rest) = ⟨[f], .ok ()⟩ := by
  obtain ⟨l', hlayout, hl'⟩ := hform.exists_layout 0 rest
  obtain rfl := hl.unique hl'
  rw [Nat.zero_add] at hlayout
  unfold Letter.field? at hf
  split at hf
  · next hletter =>
    obtain rfl := Option.some.inj hf
    rw [rendering, s.segments_text, render, Directive.field, hlayout, directive, hletter]
    rfl
  · next conv a hletter => rw [rendering_text hletter hlayout, hf]
  · cases hf

/-- A directive writes the field of its letter in the form that it asks for. -/
lemma format_text_iff (args : List Argument) (out : Bytes) :
    format (code '%' :: s.text) args = .ok out ↔ ∃ stars form rest l f, args = stars ++ rest ∧
      s.Asks stars form ∧ l.Saturates form ∧ s.letter.field? l rest = some f ∧ out = f.bytes ∧
      out.length ≤ maxLength := by
  rw [format_eq_ok_iff_fields]
  constructor
  · rintro ⟨hstop, hout, hlength⟩
    obtain ⟨-, hmet⟩ := (render_iff _ _).1 hstop
    rw [s.segments_text, List.flatMap_singleton, Segment.demands, s.demands_directive] at hmet
    obtain ⟨stars, form, rest, rfl, hform, hrest⟩ := exists_asks hmet
    obtain ⟨l, -, hl⟩ := hform.exists_layout 0 rest
    obtain ⟨f, hf⟩ := Letter.exists_field hrest l
    rw [rendering_of_asks hform hl hf, List.flatMap_singleton] at hout
    exact ⟨stars, form, rest, l, f, rfl, hform, hl, hf, hout, hlength⟩
  · rintro ⟨stars, form, rest, l, f, rfl, hform, hl, hf, hout, hlength⟩
    rw [rendering_of_asks hform hl hf, List.flatMap_singleton]
    exact ⟨rfl, hout, hlength⟩

end Spelling

end RuntimeSupport.Format

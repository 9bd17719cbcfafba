import RuntimeSupport.Proofs.Format.Composition

/-!
# Accepted formats in parts

A format can be taken apart wherever no directive is cut short (`Whole`): it is accepted exactly if
it is accepted part by part, each part with the arguments that it asks for, and what the parts write
one after the other is what the whole writes, as long as that fits a buffer.

The main statements are `format_append_eq_ok_iff` and, for a directive with a format before and a
format behind it, `format_around_eq_ok_iff`.
-/

namespace RuntimeSupport.Format

variable {fmt f₁ f₂ out o₁ : Bytes} {args a₁ : List Argument}

/-- No directive of the format is cut short, so whatever follows it starts a segment of its own. -/
def Whole (fmt : Bytes) : Prop := ∀ seg ∈ segments 0 fmt, seg.IsEnded

/-- The number of arguments that the directives of a format ask for. -/
def argumentCount (fmt : Bytes) : Nat := ((segments 0 fmt).flatMap Segment.demands).length

lemma Template.whole {ds : List Demand} (t : Template fmt ds) : Whole fmt := fun seg hseg =>
  (((template_iff_segments 0 fmt ds).1 t).1 seg hseg).isEnded

lemma length_eq_argumentCount (h : (rendering fmt args).stop = .ok ()) :
    args.length = argumentCount fmt :=
  ((render_iff _ _).1 h).2.length_eq.symm

lemma Spelling.whole_text (s : Spelling) : Whole (Ascii.code '%' :: s.text) := by
  have ht := Template.directive s Template.nil
  rw [List.append_nil] at ht
  exact ht.whole

/-! ## Where directives start -/

/-- A directive starts inside the format that it is a segment of. -/
lemma offset_of_mem_segments {offset o : Nat} {d : Directive}
    (h : .directive o d ∈ segments offset fmt) : offset ≤ o ∧ o < offset + fmt.length := by
  fun_induction segments offset fmt with
  | case1 offset => cases h
  | case2 offset rest r ih =>
    have hle : r.2.length ≤ rest.length := Directive.length_read_le rest
    rw [List.length_cons]
    rcases List.mem_cons.1 h with h | h
    · rw [(Segment.directive.inj h).1]
      omega
    · have := ih h
      omega
  | case3 offset b rest hb ih =>
    rw [List.length_cons]
    rcases List.mem_cons.1 h with h | h
    · cases h
    · have := ih h
      omega

/-- Where a directive starts, no directive before it is cut short. -/
lemma isEnded_of_mem_segments {offset : Nat} {d : Directive} {x : Bytes}
    (h : .directive (offset + f₁.length) d ∈ segments offset (f₁ ++ Ascii.code '%' :: x)) :
    ∀ seg ∈ segments offset f₁, seg.IsEnded := by
  fun_induction segments offset f₁ with
  | case1 offset => simp
  | case2 offset rest r ih =>
    rw [List.cons_append, segments_percent, List.length_cons] at h
    rcases List.mem_cons.1 h with h | h
    · have := (Segment.directive.inj h).1
      omega
    · have hlow := (offset_of_mem_segments h).1
      have hle : r.2.length ≤ rest.length := Directive.length_read_le rest
      have hle' := Directive.length_read_le (rest ++ Ascii.code '%' :: x)
      -- the directive leaves the place alone, so it has its letter before
      have hends : r.1.tail ≠ .missing := by
        refine Directive.tail_ne_missing (List.cons_ne_nil (Ascii.code '%') x) ?_
        rw [List.length_append] at hlow hle'
        omega
      have hread : Directive.read (rest ++ Ascii.code '%' :: x) =
          (r.1, r.2 ++ Ascii.code '%' :: x) := Directive.read_append hends _
      have htaken : offset + 1 + ((rest ++ Ascii.code '%' :: x).length -
          (r.2 ++ Ascii.code '%' :: x).length) = offset + 1 + (rest.length - r.2.length) := by
        simp only [List.length_append]
        omega
      have hplace : offset + (rest.length + 1) =
          offset + 1 + (rest.length - r.2.length) + r.2.length := by
        omega
      simp only [hread, htaken] at h
      rw [hplace] at h
      exact List.forall_mem_cons.2 ⟨hends, ih h⟩
  | case3 offset b rest hb ih =>
    rw [List.cons_append, segments_literal offset hb, List.length_cons] at h
    refine List.forall_mem_cons.2 ⟨trivial, ih ?_⟩
    rw [Nat.add_right_comm, Nat.add_assoc]
    exact (List.mem_cons.1 h).resolve_left (by simp)

/-- The percent signs that start directives are those behind a whole format. -/
theorem whole_iff_mem_segments (x : Bytes) :
    Whole f₁ ↔ ∃ d, .directive f₁.length d ∈ segments 0 (f₁ ++ Ascii.code '%' :: x) := by
  constructor
  · intro h
    refine ⟨(Directive.read x).1, ?_⟩
    rw [segments_append 0 h, segments_percent, Nat.zero_add]
    simp
  · rintro ⟨d, hd⟩
    exact isEnded_of_mem_segments (by rwa [Nat.zero_add])

/-- Arguments that meet what is asked for in two parts fall into two parts themselves. -/
lemma exists_append_of_met {ds es : List Demand} (h : List.Forall₂ Demand.MetBy (ds ++ es) args) :
    ∃ a₁ a₂, args = a₁ ++ a₂ ∧ List.Forall₂ Demand.MetBy ds a₁ ∧
      List.Forall₂ Demand.MetBy es a₂ := by
  have htake := List.forall₂_take ds.length h
  have hdrop := List.forall₂_drop ds.length h
  rw [List.take_left] at htake
  rw [List.drop_left] at hdrop
  exact ⟨_, _, (List.take_append_drop ds.length args).symm, htake, hdrop⟩

/-- The walk along two formats comes to its end exactly if the walks along both do, each with the
arguments that it takes. -/
lemma rendering_append_iff (hf₁ : Whole f₁) (f₂ : Bytes) (args : List Argument) :
    (rendering (f₁ ++ f₂) args).stop = .ok () ↔ ∃ a₁ a₂, args = a₁ ++ a₂ ∧
      (rendering f₁ a₁).stop = .ok () ∧ (rendering f₂ a₂).stop = .ok () := by
  constructor
  · intro h
    obtain ⟨hcomplete, hmet⟩ := (render_iff _ _).1 h
    rw [segments_append 0 hf₁ f₂] at hcomplete hmet
    rw [List.flatMap_append] at hmet
    obtain ⟨hc₁, hc₂⟩ := List.forall_mem_append.1 hcomplete
    -- the first format takes as many arguments as it asks for
    obtain ⟨a₁, a₂, hargs, hmet₁, hmet₂⟩ := exists_append_of_met hmet
    have ht₂ := (template_iff_segments _ f₂ _).2 ⟨hc₂, rfl⟩
    exact ⟨a₁, a₂, hargs, (render_iff _ _).2 ⟨hc₁, hmet₁⟩, (rendering_iff f₂ _).2 ⟨_, ht₂, hmet₂⟩⟩
  · rintro ⟨a₁, a₂, rfl, h₁, h₂⟩
    rw [rendering_append h₁, h₂]
    rfl

/-- Behind a format that is accepted, another one is accepted exactly if it is so by itself and
there is room for what both write. -/
theorem format_append_of_ok (h : format f₁ a₁ = .ok o₁) (f₂ : Bytes) (a₂ : List Argument)
    (out : Bytes) :
    format (f₁ ++ f₂) (a₁ ++ a₂) = .ok out ↔
      ∃ o₂, format f₂ a₂ = .ok o₂ ∧ out = o₁ ++ o₂ ∧ out.length ≤ maxLength := by
  obtain ⟨hstop, rfl, -⟩ := format_eq_ok_iff_fields.1 h
  have hmap : ∀ x : Except Error Unit,
      x.mapError (Error.shift f₁.length a₁.length) = .ok () ↔ x = .ok () := by
    rintro (e | u)
    · simp [Except.mapError]
    · simp [Except.mapError]
  simp only [format_eq_ok_iff_fields, rendering_append hstop, hmap, List.flatMap_append]
  constructor
  · rintro ⟨hstop₂, rfl, hlength⟩
    rw [List.length_append] at hlength
    exact ⟨_, ⟨hstop₂, rfl, by omega⟩, rfl, by rw [List.length_append]; omega⟩
  · rintro ⟨o₂, ⟨hstop₂, rfl, -⟩, rfl, hlength⟩
    exact ⟨hstop₂, rfl, hlength⟩

/-- Two formats one after the other are accepted exactly if each is accepted with its share of the
arguments and there is room for what both write. -/
theorem format_append_eq_ok_iff (hf₁ : Whole f₁) (f₂ : Bytes) (args : List Argument) (out : Bytes) :
    format (f₁ ++ f₂) args = .ok out ↔ ∃ a₁ a₂ o₁ o₂, args = a₁ ++ a₂ ∧ format f₁ a₁ = .ok o₁ ∧
      format f₂ a₂ = .ok o₂ ∧ out = o₁ ++ o₂ ∧ out.length ≤ maxLength := by
  constructor
  · intro h
    obtain ⟨hstop, hout, hlength⟩ := format_eq_ok_iff_fields.1 h
    obtain ⟨a₁, a₂, rfl, hstop₁, -⟩ := (rendering_append_iff hf₁ f₂ args).1 hstop
    -- what the first format writes is a part of what fits
    have hfits : ((rendering f₁ a₁).fields.flatMap Field.bytes).length ≤ maxLength := by
      rw [hout, rendering_append hstop₁, List.flatMap_append, List.length_append] at hlength
      omega
    have h₁ := format_eq_ok_iff_fields.2 ⟨hstop₁, rfl, hfits⟩
    obtain ⟨o₂, h₂, hout₂, -⟩ := (format_append_of_ok h₁ f₂ a₂ out).1 h
    exact ⟨a₁, a₂, _, o₂, rfl, h₁, h₂, hout₂, hlength⟩
  · rintro ⟨a₁, a₂, o₁, o₂, rfl, h₁, h₂, hout, hlength⟩
    exact (format_append_of_ok h₁ f₂ a₂ out).2 ⟨o₂, h₂, hout, hlength⟩

/-- A directive is accepted between two formats exactly if all three are accepted by themselves. -/
theorem format_around_eq_ok_iff (hf₁ : Whole f₁) (s : Spelling) (f₂ : Bytes) (args : List Argument)
    (out : Bytes) :
    format (f₁ ++ Ascii.code '%' :: (s.text ++ f₂)) args = .ok out ↔
      ∃ a₁ b a₂ o₁ o o₂, args = a₁ ++ (b ++ a₂) ∧ format f₁ a₁ = .ok o₁ ∧
        format (Ascii.code '%' :: s.text) b = .ok o ∧ format f₂ a₂ = .ok o₂ ∧
        out = o₁ ++ (o ++ o₂) ∧ out.length ≤ maxLength := by
  rw [format_append_eq_ok_iff hf₁]
  simp only [← List.cons_append, format_append_eq_ok_iff s.whole_text]
  constructor
  · rintro ⟨a₁, r, o₁, p, rfl, h₁, ⟨b, a₂, o, o₂, rfl, h, h₂, rfl, -⟩, rfl, hlength⟩
    exact ⟨a₁, b, a₂, o₁, o, o₂, rfl, h₁, h, h₂, rfl, hlength⟩
  · rintro ⟨a₁, b, a₂, o₁, o, o₂, rfl, h₁, h, h₂, rfl, hlength⟩
    rw [List.length_append] at hlength
    exact ⟨a₁, b ++ a₂, o₁, o ++ o₂, rfl, h₁, ⟨b, a₂, o, o₂, rfl, h, h₂, rfl, by omega⟩, rfl, by
      rw [List.length_append]; omega⟩

/-- A directive is accepted between two formats that are accepted exactly if it is so by itself and
there is room for what all three write. -/
theorem format_between_of_ok {a₂ : List Argument} {o₂ : Bytes} (h₁ : format f₁ a₁ = .ok o₁)
    (s : Spelling) (h₂ : format f₂ a₂ = .ok o₂) (b : List Argument) (out : Bytes) :
    format (f₁ ++ Ascii.code '%' :: (s.text ++ f₂)) (a₁ ++ (b ++ a₂)) = .ok out ↔
      ∃ o, format (Ascii.code '%' :: s.text) b = .ok o ∧ out = o₁ ++ (o ++ o₂) ∧
        out.length ≤ maxLength := by
  rw [format_append_of_ok h₁]
  simp only [← List.cons_append]
  constructor
  · rintro ⟨p, hp, rfl, hlength⟩
    obtain ⟨c, d, o, o₂', hsplit, h, h₂', rfl, -⟩ :=
      (format_append_eq_ok_iff s.whole_text _ _ _).1 hp
    -- the format behind takes as many arguments on both sides, so the directive does so too
    have hcount : a₂.length = d.length := by
      rw [length_eq_argumentCount (format_eq_ok_iff_fields.1 h₂).1,
        length_eq_argumentCount (format_eq_ok_iff_fields.1 h₂').1]
    obtain ⟨rfl, rfl⟩ := List.append_inj' hsplit hcount
    obtain rfl : o₂ = o₂' := Except.ok.inj (h₂.symm.trans h₂')
    exact ⟨o, h, rfl, hlength⟩
  · rintro ⟨o, h, rfl, hlength⟩
    have hlengths := hlength
    rw [List.length_append] at hlengths
    have hp := (format_append_of_ok h f₂ a₂ (o ++ o₂)).2 ⟨o₂, h₂, rfl, by omega⟩
    exact ⟨o ++ o₂, hp, rfl, hlength⟩

end RuntimeSupport.Format

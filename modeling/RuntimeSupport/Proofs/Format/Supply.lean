import Mathlib.Data.List.Forall2
import RuntimeSupport.Format.Rendering
import RuntimeSupport.Proofs.Format.Spelling
import RuntimeSupport.Proofs.Outcome

/-!
# What directives take from a supply of arguments

`Takes s ds s'` says that the arguments between two supplies are exactly those that are asked for.
Each part of a directive succeeds exactly if it can take what it asks for, up to
`Directive.field_iff`; `render_iff` says the same of a walk along all segments, which must leave
nothing over.
-/

namespace RuntimeSupport.Format

/-- Arguments that are asked for are the first of a supply, and the other one is left when they are
taken. -/
def Takes (s : Supply) : List Demand → Supply → Prop
  | [], s' => s' = s
  | d :: ds, s' => ∃ a rest, s.remaining = a :: rest ∧ d.MetBy a ∧
      Takes ⟨s.position + 1, rest⟩ ds s'

lemma takes_append {s s'' : Supply} (ds es : List Demand) :
    Takes s (ds ++ es) s'' ↔ ∃ s', Takes s ds s' ∧ Takes s' es s'' := by
  induction ds generalizing s with
  | nil => simp [Takes]
  | cons d ds ih =>
    simp only [List.cons_append, Takes, ih]
    constructor
    · rintro ⟨a, rest, hs, hd, s', h₁, h₂⟩
      exact ⟨s', ⟨a, rest, hs, hd, h₁⟩, h₂⟩
    · rintro ⟨s', ⟨a, rest, hs, hd, h₁⟩, h₂⟩
      exact ⟨a, rest, hs, hd, s', h₁, h₂⟩

/-- The arguments that are left meet what is asked for next exactly if that can be taken, and what
is left then meets the rest. -/
lemma forall₂_append_iff {s : Supply} (ds es : List Demand) :
    List.Forall₂ Demand.MetBy (ds ++ es) s.remaining ↔
      ∃ s', Takes s ds s' ∧ List.Forall₂ Demand.MetBy es s'.remaining := by
  induction ds generalizing s with
  | nil => simp [Takes]
  | cons d ds ih =>
    rw [List.cons_append, List.forall₂_cons_left_iff]
    simp only [Takes]
    constructor
    · rintro ⟨a, rest, hd, h, hs⟩
      obtain ⟨s', h₁, h₂⟩ := (ih (s := ⟨s.position + 1, rest⟩)).1 h
      exact ⟨s', ⟨a, rest, hs, hd, h₁⟩, h₂⟩
    · rintro ⟨s', ⟨a, rest, hs, hd, h₁⟩, h₂⟩
      exact ⟨a, rest, hd, ih.2 ⟨s', h₁, h₂⟩, hs⟩

/-! ## The parts of a directive -/

lemma Supply.next_eq_ok {s s' : Supply} {a : Argument} :
    s.next = .ok (a, s') ↔ s.remaining = a :: s'.remaining ∧ s'.position = s.position + 1 := by
  obtain ⟨k, remaining⟩ := s
  obtain ⟨k', remaining'⟩ := s'
  cases remaining with
  | nil => simp [Supply.next]
  | cons b rest => simp [Supply.next, eq_comm, and_assoc, and_comm]

lemma takes_singleton {s s' : Supply} {d : Demand} :
    Takes s [d] s' ↔ ∃ a, s.next = .ok (a, s') ∧ d.MetBy a := by
  simp only [Takes, Supply.next_eq_ok]
  constructor
  · rintro ⟨a, rest, hs, hd, rfl⟩
    exact ⟨a, ⟨hs, rfl⟩, hd⟩
  · rintro ⟨a, ⟨hs, hk⟩, hd⟩
    exact ⟨a, s'.remaining, hs, hd, by rw [← hk]⟩

lemma isSome_star? (a : Argument) : a.star?.isSome ↔ Demand.star.MetBy a := by
  cases a <;> simp [Argument.star?, Demand.MetBy]

lemma Conversion.isSome_field? (conv : Conversion) (l : Layout) (a : Argument) :
    (conv.field? l a).isSome ↔ conv.demand.MetBy a := by
  cases conv <;> cases a <;>
    simp [Conversion.field?, Conversion.demand, Demand.MetBy, Argument.signed?,
      Argument.unsigned?, Argument.octet?, Argument.bytes?, Argument.address?]

lemma Supply.star_iff {s s' : Supply} :
    (∃ v, s.star = .ok (v, s')) ↔ Takes s [.star] s' := by
  simp only [Supply.star, bind_eq_ok, takes_singleton, ← isSome_star?]
  constructor
  · rintro ⟨v, ⟨a, t⟩, hnext, h⟩
    cases ha : a.star? with
    | none => simp [ha] at h
    | some w =>
      obtain ⟨-, rfl⟩ : w = v ∧ t = s' := by simpa [ha] using h
      exact ⟨a, hnext, by rw [ha]; rfl⟩
  · rintro ⟨a, hnext, ha⟩
    obtain ⟨v, hv⟩ := Option.isSome_iff_exists.1 ha
    exact ⟨v, (a, s'), hnext, by simp [hv]⟩

lemma Amount.toWidth_iff (a : Amount) (flags : Flags) {s s' : Supply} :
    (∃ f w, a.toWidth flags s = .ok (f, w, s')) ↔ Takes s a.demands s' := by
  cases a with
  | number n => simp [Amount.toWidth, Amount.demands, Takes, eq_comm]
  | star =>
    rw [Amount.demands, ← Supply.star_iff]
    simp only [Amount.toWidth, bind_eq_ok]
    constructor
    · rintro ⟨f, w, ⟨v, t⟩, hstar, h⟩
      obtain ⟨-, -, rfl⟩ : _ ∧ _ ∧ t = s' := by simpa using h
      exact ⟨v, hstar⟩
    · rintro ⟨v, hstar⟩
      exact ⟨_, _, (v, s'), hstar, rfl⟩

lemma Amount.toPrecision_iff (a : Amount) {s s' : Supply} :
    (∃ p, a.toPrecision s = .ok (p, s')) ↔ Takes s a.demands s' := by
  cases a with
  | number n => simp [Amount.toPrecision, Amount.demands, Takes, eq_comm]
  | star =>
    rw [Amount.demands, ← Supply.star_iff]
    simp only [Amount.toPrecision, bind_eq_ok]
    constructor
    · rintro ⟨p, ⟨v, t⟩, hstar, h⟩
      obtain ⟨-, rfl⟩ : _ ∧ t = s' := by simpa using h
      exact ⟨v, hstar⟩
    · rintro ⟨v, hstar⟩
      exact ⟨_, (v, s'), hstar, rfl⟩

lemma Directive.layout_iff (d : Directive) {s s' : Supply} :
    (∃ l, d.layout s = .ok (l, s')) ↔
      Takes s (d.width.demands ++ d.precision.elim [] Amount.demands) s' := by
  simp only [takes_append, ← Amount.toWidth_iff _ d.flags, Directive.layout, bind_eq_ok]
  constructor
  · rintro ⟨l, ⟨f, w, s₁⟩, hw, h⟩
    refine ⟨s₁, ⟨f, w, hw⟩, ?_⟩
    cases hp : d.precision with
    | none =>
      obtain ⟨-, rfl⟩ : _ ∧ s₁ = s' := by simpa [hp] using h
      rfl
    | some p =>
      simp only [hp, bind_eq_ok] at h
      obtain ⟨⟨q, s₂⟩, hq, h⟩ := h
      obtain ⟨-, rfl⟩ : _ ∧ s₂ = s' := by simpa using h
      exact p.toPrecision_iff.1 ⟨q, hq⟩
  · rintro ⟨s₁, ⟨f, w, hw⟩, h⟩
    cases hp : d.precision with
    | none =>
      obtain rfl : s' = s₁ := by simpa [hp, Takes] using h
      exact ⟨⟨f, w, none⟩, (f, w, s'), hw, rfl⟩
    | some p =>
      rw [hp] at h
      obtain ⟨q, hq⟩ := p.toPrecision_iff.2 h
      exact ⟨⟨f, w, q⟩, (f, w, s₁), hw, by simp [bind_eq_ok, hq]⟩

/-- A directive writes a field exactly if it is complete and can take what it asks for. -/
theorem Directive.field_iff (offset : Nat) (d : Directive) {s s' : Supply} :
    (∃ f, d.field offset s = .ok (f, s')) ↔ d.tail.IsComplete ∧ Takes s d.demands s' := by
  rw [Directive.demands, takes_append]
  simp only [← Directive.layout_iff, Directive.field, bind_eq_ok]
  constructor
  · rintro ⟨f, ⟨l, s₁⟩, hl, h⟩
    cases ht : d.tail with
    | missing => simp [ht] at h
    | unknown b => simp [ht] at h
    | percent =>
      obtain ⟨-, rfl⟩ : _ ∧ s₁ = s' := by simpa [ht] using h
      exact ⟨⟨.percent, rfl⟩, s₁, ⟨l, hl⟩, rfl⟩
    | conversion conv =>
      simp only [ht, bind_eq_ok] at h
      obtain ⟨⟨a, s₂⟩, ha, h⟩ := h
      cases hf : conv.field? l a with
      | none => simp [hf] at h
      | some g =>
        obtain ⟨-, rfl⟩ : _ ∧ s₂ = s' := by simpa [hf] using h
        have hmet := (conv.isSome_field? l a).1 (by rw [hf]; rfl)
        exact ⟨⟨.conversion conv, rfl⟩, s₁, ⟨l, hl⟩, takes_singleton.2 ⟨a, ha, hmet⟩⟩
  · rintro ⟨⟨letter, ht⟩, s₁, ⟨l, hl⟩, h⟩
    cases letter with
    | percent =>
      obtain rfl : s' = s₁ := by simpa [ht, Letter.tail, Tail.demands, Takes] using h
      exact ⟨_, (l, s'), hl, by rw [ht]; rfl⟩
    | conversion conv =>
      rw [ht] at h
      obtain ⟨a, ha, hmet⟩ := takes_singleton.1 h
      obtain ⟨g, hg⟩ := Option.isSome_iff_exists.1 ((conv.isSome_field? l a).2 hmet)
      refine ⟨g, (l, s₁), hl, ?_⟩
      rw [ht]
      simp only [Letter.tail, bind_eq_ok]
      exact ⟨(a, s'), ha, by rw [hg]⟩

/-! ## Whole walks -/

lemma render_literal (s : Supply) (b : UInt8) (rest : List Segment) :
    (render s (.literal b :: rest)).stop = (render s rest).stop := rfl

lemma render_directive_iff (s : Supply) (offset : Nat) (d : Directive) (rest : List Segment) :
    (render s (.directive offset d :: rest)).stop = .ok () ↔
      ∃ s', (∃ f, d.field offset s = .ok (f, s')) ∧ (render s' rest).stop = .ok () := by
  rw [render]
  cases hd : d.field offset s with
  | error e => simp
  | ok r =>
    obtain ⟨f, s'⟩ := r
    simp only [Rendering.cons]
    constructor
    · exact fun h => ⟨s', ⟨f, rfl⟩, h⟩
    · rintro ⟨t, ⟨g, hg⟩, h⟩
      obtain ⟨-, rfl⟩ : f = g ∧ s' = t := by simpa using hg
      exact h

/-- A walk comes to its end exactly if all directives are complete and the arguments are those that
they ask for. -/
theorem render_iff (s : Supply) (segs : List Segment) :
    (render s segs).stop = .ok () ↔ (∀ seg ∈ segs, seg.IsComplete) ∧
      List.Forall₂ Demand.MetBy (segs.flatMap Segment.demands) s.remaining := by
  -- each directive hands the next one the supply that it leaves
  induction segs generalizing s with
  | nil =>
    rw [render]
    cases s.remaining <;> simp
  | cons seg rest ih =>
    rw [List.forall_mem_cons, List.flatMap_cons]
    cases seg with
    | literal b =>
      rw [render_literal, ih s]
      simp [Segment.IsComplete, Segment.demands]
    | directive offset d =>
      simp only [render_directive_iff, ih, Directive.field_iff, Segment.IsComplete,
        Segment.demands, forall₂_append_iff]
      constructor
      · rintro ⟨s', ⟨hd, htakes⟩, hrest, hmet⟩
        exact ⟨⟨hd, hrest⟩, s', htakes, hmet⟩
      · rintro ⟨⟨hd, hrest⟩, s', htakes, hmet⟩
        exact ⟨s', ⟨hd, htakes⟩, hrest, hmet⟩

end RuntimeSupport.Format

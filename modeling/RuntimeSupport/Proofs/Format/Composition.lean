import RuntimeSupport.Proofs.Format.Acceptance

/-!
# Formatting in two goes

Formatting with one format and then with another one is formatting with both at once.  Three facts
make it so.  No directive reads past its letter, so the segments of the two formats one after the
other are those of the whole (`segments_append`).  What the parts of a directive do depends neither
on the arguments behind those they take nor on where the counting starts, which `Carried` says of
each part in turn.  And fields can be written in two goes (`emit_append`).

The main statement is `formatInto_append`.
-/

namespace RuntimeSupport

namespace Format

/-- An error with its offset and its positions counted from further ahead. -/
def Error.shift (i j : Nat) : Error → Error
  | .missingArgument position => .missingArgument (position + j)
  | .argumentMismatch position c => .argumentMismatch (position + j) c
  | .unknownConversion c offset => .unknownConversion c (offset + i)
  | .incompleteDirective offset => .incompleteDirective (offset + i)
  | .unknownArgumentKind position kind => .unknownArgumentKind (position + j) kind
  | .unusedArguments used supplied => .unusedArguments (used + j) (supplied + j)

/-- A failure with its offset and its positions counted from further ahead. -/
def Failure.shift (i j : Nat) : Failure → Failure
  | .error e => .error (e.shift i j)
  | .panic p => .panic p

/-! ## The segments of two formats -/

/-- A segment with its offset counted from further ahead. -/
def Segment.shift (i : Nat) : Segment → Segment
  | .literal b => .literal b
  | .directive offset d => .directive (offset + i) d

lemma segments_shift (i offset : Nat) (fmt : Bytes) :
    segments (offset + i) fmt = (segments offset fmt).map (Segment.shift i) := by
  fun_induction segments offset fmt with
  | case1 offset => rw [segments, List.map_nil]
  | case2 offset rest r ih =>
    rw [segments_percent, Nat.add_right_comm offset i, Nat.add_right_comm (offset + 1) i, ih]
    rfl
  | case3 offset b rest hb ih =>
    rw [segments_literal _ hb, Nat.add_right_comm offset i, ih]
    rfl

/-- Whether a segment ends before the format does.  A directive that is cut short goes on in what
follows. -/
def Segment.IsEnded : Segment → Prop
  | .literal _ => True
  | .directive _ d => d.tail ≠ .missing

lemma Segment.IsComplete.isEnded {seg : Segment} (h : seg.IsComplete) : seg.IsEnded := by
  cases seg with
  | literal b => trivial
  | directive offset d =>
    obtain ⟨l, hl⟩ : ∃ l : Letter, d.tail = l.tail := h
    show d.tail ≠ .missing
    rw [hl]
    cases l <;> simp [Letter.tail]

/-- A format whose directives are not cut short is split the same way whatever follows it. -/
theorem segments_append (offset : Nat) {f₁ : Bytes}
    (h : ∀ seg ∈ segments offset f₁, seg.IsEnded) (f₂ : Bytes) :
    segments offset (f₁ ++ f₂) = segments offset f₁ ++ segments (offset + f₁.length) f₂ := by
  fun_induction segments offset f₁ with
  | case1 offset => rfl
  | case2 offset rest r ih =>
    rw [List.forall_mem_cons] at h
    obtain ⟨hd, hrest⟩ := h
    have hread : Directive.read (rest ++ f₂) = (r.1, r.2 ++ f₂) :=
      Directive.read_append hd f₂
    have hle : r.2.length ≤ rest.length := Directive.length_read_le rest
    -- what the directive takes is counted the same, since the rest grows on both sides
    have htaken : offset + 1 + ((rest ++ f₂).length - (r.2 ++ f₂).length) =
        offset + 1 + (rest.length - r.2.length) := by
      simp only [List.length_append]
      omega
    have hend : offset + 1 + (rest.length - r.2.length) + r.2.length =
        offset + (Ascii.code '%' :: rest).length := by
      rw [List.length_cons]
      omega
    rw [List.cons_append, segments_percent, hread]
    simp only
    rw [htaken, ih hrest, hend]
    rfl
  | case3 offset b rest hb ih =>
    rw [List.forall_mem_cons] at h
    have hend : offset + 1 + rest.length = offset + (b :: rest).length := by
      rw [List.length_cons]
      omega
    rw [List.cons_append, segments_literal _ hb, ih h.2, hend]
    rfl

/-! ## The parts of a directive -/

/-- A supply with `j` more arguments taken before it and more of them behind. -/
def Supply.within (j : Nat) (more : List Argument) (s : Supply) : Supply :=
  ⟨s.position + j, s.remaining ++ more⟩

/-- An outcome for a supply gives that for the supply within a longer one.  A success is the same
success, and an error is the same error, counted from further ahead; only an error that more
arguments behind might mend needs that there are none. -/
def Carried (i j : Nat) (more : List Argument) {α : Type} (carry : α → α)
    (outcome carried : Except Error α) : Prop :=
  match outcome with
  | .ok a => carried = .ok (carry a)
  | .error e => more = [] → carried = .error (e.shift i j)

section

variable {i j : Nat} {more : List Argument}

lemma Carried.ok {α : Type} {carry : α → α} (a : α) :
    Carried i j more carry (.ok a) (.ok (carry a)) := rfl

lemma Carried.error {α : Type} {carry : α → α} (e : Error) :
    Carried i j more carry (.error e) (.error (e.shift i j)) := fun _ => rfl

lemma Carried.bind {α β : Type} {f : α → α} {g : β → β} {x y : Except Error α}
    {u v : α → Except Error β} (h : Carried i j more f x y)
    (hnext : ∀ a, Carried i j more g (u a) (v (f a))) : Carried i j more g (x >>= u) (y >>= v) := by
  cases x with
  | ok a =>
    obtain rfl : y = .ok (f a) := h
    exact hnext a
  | error e =>
    intro hmore
    obtain rfl : y = .error (e.shift i j) := h hmore
    rfl

lemma Supply.next_carried (s : Supply) :
    Carried i j more (Prod.map id (Supply.within j more)) s.next (s.within j more).next := by
  obtain ⟨k, _ | ⟨a, rest⟩⟩ := s
  · rintro rfl
    rfl
  · show Except.ok (a, (⟨k + j + 1, rest ++ more⟩ : Supply)) = .ok (a, ⟨k + 1 + j, rest ++ more⟩)
    rw [Nat.add_right_comm]

lemma Supply.star_carried (s : Supply) :
    Carried i j more (Prod.map id (Supply.within j more)) s.star (s.within j more).star := by
  refine s.next_carried.bind ?_
  rintro ⟨a, s'⟩
  simp only [Prod.map, id_eq]
  cases a.star? with
  | none => exact Carried.error _
  | some v => exact Carried.ok (v, s')

lemma Amount.toWidth_carried (flags : Flags) (s : Supply) (a : Amount) :
    Carried i j more (Prod.map id (Prod.map id (Supply.within j more))) (a.toWidth flags s)
      (a.toWidth flags (s.within j more)) := by
  cases a with
  | number n => exact Carried.ok (flags, n, s)
  | star =>
    refine s.star_carried.bind ?_
    rintro ⟨v, s'⟩
    exact Carried.ok (_, _, s')

lemma Amount.toPrecision_carried (s : Supply) (a : Amount) :
    Carried i j more (Prod.map id (Supply.within j more)) (a.toPrecision s)
      (a.toPrecision (s.within j more)) := by
  cases a with
  | number n => exact Carried.ok (some n, s)
  | star =>
    refine s.star_carried.bind ?_
    rintro ⟨v, s'⟩
    exact Carried.ok (_, s')

lemma Directive.layout_carried (d : Directive) (s : Supply) :
    Carried i j more (Prod.map id (Supply.within j more)) (d.layout s)
      (d.layout (s.within j more)) := by
  refine (d.width.toWidth_carried d.flags s).bind ?_
  rintro ⟨flags, width, s₁⟩
  simp only [Prod.map, id_eq]
  cases d.precision with
  | none => exact Carried.ok (_, s₁)
  | some p =>
    refine (p.toPrecision_carried s₁).bind ?_
    rintro ⟨precision, s₂⟩
    exact Carried.ok (_, s₂)

/-- What a directive writes depends only on the arguments it takes, and its error only on what it
is counted from. -/
theorem Directive.field_carried (offset : Nat) (d : Directive) (s : Supply) :
    Carried i j more (Prod.map id (Supply.within j more)) (d.field offset s)
      (d.field (offset + i) (s.within j more)) := by
  refine (d.layout_carried s).bind ?_
  rintro ⟨l, s₁⟩
  simp only [Prod.map, id_eq]
  cases d.tail with
  | missing => exact Carried.error _
  | percent => exact Carried.ok (_, s₁)
  | unknown b => exact Carried.error _
  | conversion conv =>
    refine s₁.next_carried.bind ?_
    rintro ⟨a, s₂⟩
    simp only [Prod.map, id_eq]
    cases conv.field? l a with
    | none => exact Carried.error _
    | some f => exact Carried.ok (f, s₂)

end

/-! ## Whole walks -/

lemma Takes.total {s s' : Supply} {ds : List Demand} (h : Takes s ds s') :
    s'.position + s'.remaining.length = s.position + s.remaining.length := by
  induction ds generalizing s with
  | nil =>
    obtain rfl : s' = s := h
    rfl
  | cons d ds ih =>
    obtain ⟨a, rest, hs, -, hrest⟩ := h
    rw [ih hrest, hs, List.length_cons, Nat.add_assoc, Nat.add_comm 1]

/-- A walk that comes to its end goes on with what follows as if that were a walk of its own, which
finds only the arguments that are left. -/
lemma render_append {s : Supply} {segs₁ : List Segment} (h : (render s segs₁).stop = .ok ())
    (more : List Argument) (segs₂ : List Segment) :
    render (s.within 0 more) (segs₁ ++ segs₂) =
      let r := render ⟨s.position + s.remaining.length, more⟩ segs₂
      ⟨(render s segs₁).fields ++ r.fields, r.stop⟩ := by
  induction segs₁ generalizing s with
  | nil =>
    -- a walk that ends well leaves no argument, so only those behind are there
    obtain ⟨k, _ | ⟨a, rest⟩⟩ := s
    · rfl
    · simp [render] at h
  | cons seg rest ih =>
    cases seg with
    | literal b =>
      rw [List.cons_append, render, ih h, render]
      rfl
    | directive offset d =>
      obtain ⟨s', ⟨f, hf⟩, hrest⟩ := (render_directive_iff s offset d rest).1 h
      obtain ⟨-, htakes⟩ := (d.field_iff offset).1 ⟨f, hf⟩
      have hcarried : d.field offset (s.within 0 more) = .ok (f, s'.within 0 more) := by
        have hfield : Carried 0 0 more _ _ _ := d.field_carried offset s
        rw [hf] at hfield
        exact hfield
      rw [List.cons_append, render, hcarried, render, hf]
      simp only
      rw [ih hrest, htakes.total]
      rfl

/-- A walk with everything counted from further ahead writes the same and fails alike. -/
lemma render_shift (i j : Nat) (s : Supply) (segs : List Segment) :
    render (s.within j []) (segs.map (Segment.shift i)) =
      ⟨(render s segs).fields, (render s segs).stop.mapError (Error.shift i j)⟩ := by
  induction segs generalizing s with
  | nil =>
    obtain ⟨k, _ | ⟨a, rest⟩⟩ := s
    · rfl
    · simp only [List.map_nil, render, Supply.within, List.append_nil, Except.mapError, Error.shift]
      rw [Nat.add_right_comm]
  | cons seg rest ih =>
    cases seg with
    | literal b =>
      rw [List.map_cons, Segment.shift, render, ih, render]
      rfl
    | directive offset d =>
      have hcarried : Carried i j [] _ _ _ := d.field_carried offset s
      rw [List.map_cons, Segment.shift, render, render]
      cases hd : d.field offset s with
      | error e =>
        -- there are no arguments behind that could mend it
        rw [hd] at hcarried
        rw [hcarried rfl]
        rfl
      | ok r =>
        obtain ⟨f, s'⟩ := r
        rw [hd] at hcarried
        obtain hcarried : d.field (offset + i) (s.within j []) = .ok (f, s'.within j []) := hcarried
        rw [hcarried]
        simp only
        rw [ih]
        rfl

/-- The walk along two formats that follow each other, when the first one is accepted. -/
theorem rendering_append {f₁ : Bytes} {a₁ : List Argument} (h : (rendering f₁ a₁).stop = .ok ())
    (f₂ : Bytes) (a₂ : List Argument) :
    rendering (f₁ ++ f₂) (a₁ ++ a₂) =
      ⟨(rendering f₁ a₁).fields ++ (rendering f₂ a₂).fields,
        (rendering f₂ a₂).stop.mapError (Error.shift f₁.length a₁.length)⟩ := by
  have hcomplete := ((render_iff _ _).1 h).1
  have hsegments : segments 0 (f₁ ++ f₂) =
      segments 0 f₁ ++ (segments 0 f₂).map (Segment.shift f₁.length) := by
    rw [segments_append 0 (fun seg hseg => (hcomplete seg hseg).isEnded) f₂, segments_shift]
  have happend := render_append h a₂ ((segments 0 f₂).map (Segment.shift f₁.length))
  have hshift := render_shift f₁.length a₁.length ⟨0, a₂⟩ (segments 0 f₂)
  simp only [Supply.within, List.append_nil] at happend hshift
  rw [rendering, hsegments, happend, hshift]
  rfl

/-- Writing two renderings one after the other writes them at once. -/
lemma Rendering.writeTo_append {b : Bytes} {fs : List Field} (h : (emit b.length fs).2 = none)
    (r : Rendering) (i j : Nat) :
    Rendering.writeTo b ⟨fs ++ r.fields, r.stop.mapError (Error.shift i j)⟩ =
      let w := r.writeTo (b ++ (emit b.length fs).1)
      (w.1, match w.2 with
        | .ok n => .ok ((emit b.length fs).1.length + n)
        | .error f => .error (f.shift i j)) := by
  simp only [Rendering.writeTo, emit_append h, List.length_append, List.append_assoc]
  rcases emit (b.length + (emit b.length fs).1.length) r.fields with ⟨bs, _ | panic⟩
  · cases r.stop with
    | error e => rfl
    | ok u => rfl
  · rfl

end Format

open Format

/-- Formatting is compositional.  After a call that succeeds, formatting with another format and
other arguments is formatting with both formats and all arguments at once: the buffer is the same
and the numbers of bytes add up, and a failure is the same with its offset counted from the start
of the whole format and its positions from the first of all arguments. -/
theorem formatInto_append {b b₁ f₁ : Bytes} {a₁ : List Argument} {n₁ : Nat}
    (h : formatInto b f₁ a₁ = (b₁, .ok n₁)) (f₂ : Bytes) (a₂ : List Argument) :
    formatInto b (f₁ ++ f₂) (a₁ ++ a₂) =
      let r := formatInto b₁ f₂ a₂
      (r.1, match r.2 with
        | .ok n₂ => .ok (n₁ + n₂)
        | .error f => .error (f.shift f₁.length a₁.length)) := by
  -- the first call has come to its end, so the walk along both formats goes on behind it
  obtain ⟨hstop, hemit, rfl, rfl⟩ := formatInto_eq_ok_iff.1 h
  simp only [formatInto_eq, rendering_append hstop f₂ a₂]
  exact Rendering.writeTo_append hemit (rendering f₂ a₂) f₁.length a₁.length

/-- The percent sign at fault is at offset 1 of the second format and at offset 5 of the whole. -/
theorem formatInto_append_unknown :
    formatInto (Ascii.bytes "> ") (Ascii.bytes "a%*d") [.int 3, .int 7] =
      (Ascii.bytes "> a  7", .ok 4) ∧
    formatInto (Ascii.bytes "> ") (Ascii.bytes "a%*d" ++ Ascii.bytes "b%q")
      ([.int 3, .int 7] ++ []) =
      (Ascii.bytes "> a  7b", .error (.error (.unknownConversion 'q' 5))) := by
  have h : formatInto (Ascii.bytes "> ") (Ascii.bytes "a%*d") [.int 3, .int 7] =
      (Ascii.bytes "> a  7", .ok 4) := by decide +kernel
  refine ⟨h, ?_⟩
  rw [formatInto_append h]
  decide +kernel

end RuntimeSupport

import RuntimeSupport.Proofs.Format.Parts

/-!
# Where a call fails

A call that is refused has come to a directive that cannot be written, or to the end of its format
with arguments left over (`FailsAt`).  Up to there it has been accepted, so what it leaves behind
the buffer is the rendering of the part of the format before the directive, with the arguments taken
by then.  `exists_blocked` finds that place, by walking along the format once.

What an error says about the place follows from what each part of a directive does with its supply:
a success leaves a later supply of the same arguments, and an error points into the one it was given
(`Stays`).

The main statement is `formatInto_fails_at`.
-/

namespace RuntimeSupport

namespace Format

open Ascii

/-! ## Errors point into the supply -/

/-- The position behind the last argument of a supply. -/
def Supply.finish (s : Supply) : Nat := s.position + s.remaining.length

/-- Where an error points if it comes from a directive at offset `i` with a supply: to the
directive, to one of the arguments that are left, or behind the last one. -/
def Error.PointsInto (i : Nat) (s : Supply) : Error → Prop
  | .missingArgument position => position = s.finish
  | .argumentMismatch position _ => s.position ≤ position ∧ position < s.finish
  | .unknownConversion _ offset => offset = i
  | .incompleteDirective offset => offset = i
  | .unknownArgumentKind _ _ => False
  | .unusedArguments _ _ => False

/-- A later supply of the same arguments. -/
def Supply.Reaches (s s' : Supply) : Prop := s.position ≤ s'.position ∧ s'.finish = s.finish

/-- An outcome for a supply, where `left` is the supply that a success leaves. -/
def Stays (i : Nat) (s : Supply) {α : Type} (left : α → Supply) : Except Error α → Prop
  | .ok a => s.Reaches (left a)
  | .error e => e.PointsInto i s

section

variable {i : Nat} {s s' : Supply}

lemma Supply.Reaches.refl (s : Supply) : s.Reaches s := ⟨Nat.le_refl _, rfl⟩

lemma Supply.Reaches.trans {s'' : Supply} (h : s.Reaches s') (h' : s'.Reaches s'') :
    s.Reaches s'' :=
  ⟨h.1.trans h'.1, h'.2.trans h.2⟩

lemma Error.PointsInto.of_reaches {e : Error} (he : e.PointsInto i s') (h : s.Reaches s') :
    e.PointsInto i s := by
  obtain ⟨hposition, hfinish⟩ := h
  cases e with
  | missingArgument position => exact Eq.trans he hfinish
  | argumentMismatch position c =>
    obtain ⟨hle, hlt⟩ : s'.position ≤ position ∧ position < s'.finish := he
    exact ⟨hposition.trans hle, hfinish ▸ hlt⟩
  | unknownConversion c offset => exact he
  | incompleteDirective offset => exact he
  | unknownArgumentKind position kind => exact he
  | unusedArguments used supplied => exact he

lemma Stays.bind {α β : Type} {left : α → Supply} {left' : β → Supply} {x : Except Error α}
    {next : α → Except Error β} (h : Stays i s left x)
    (hnext : ∀ a, Stays i (left a) left' (next a)) : Stays i s left' (x >>= next) := by
  cases x with
  | error e => exact h
  | ok a =>
    have hreaches : s.Reaches (left a) := h
    have ha := hnext a
    show Stays i s left' (next a)
    cases hy : next a with
    | error e =>
      rw [hy] at ha
      exact Error.PointsInto.of_reaches ha hreaches
    | ok b =>
      rw [hy] at ha
      exact hreaches.trans ha

/-- Taking an argument and looking at it.  The error points to the argument itself, which is no
longer in the supply that is left. -/
lemma Supply.stays_next (s : Supply) {β : Type} {left : β → Supply}
    {next : Argument × Supply → Except Error β}
    (h : ∀ a s', (∃ b, next (a, s') = .ok b ∧ left b = s') ∨
      ∃ c, next (a, s') = .error (.argumentMismatch s.position c)) :
    Stays i s left (s.next >>= next) := by
  obtain ⟨k, _ | ⟨a, rest⟩⟩ := s
  · rfl
  · show Stays i _ left (next (a, ⟨k + 1, rest⟩))
    rcases h a ⟨k + 1, rest⟩ with ⟨b, hb, hleft⟩ | ⟨c, hc⟩
    · rw [hb]
      show k ≤ (left b).position ∧ (left b).finish = k + (a :: rest).length
      rw [hleft]
      exact ⟨Nat.le_succ k, by simp only [Supply.finish, List.length_cons]; omega⟩
    · rw [hc]
      show k ≤ k ∧ k < k + (a :: rest).length
      simp

lemma Supply.stays_star (s : Supply) : Stays i s Prod.snd s.star := by
  refine s.stays_next fun a s' => ?_
  cases ha : a.star? with
  | none => exact .inr ⟨'*', by simp only [ha]⟩
  | some v => exact .inl ⟨(v, s'), by simp only [ha], rfl⟩

lemma Amount.stays_toWidth (flags : Flags) (s : Supply) (a : Amount) :
    Stays i s (fun r => r.2.2) (a.toWidth flags s) := by
  cases a with
  | number n => exact Supply.Reaches.refl s
  | star => exact s.stays_star.bind fun r => Supply.Reaches.refl r.2

lemma Amount.stays_toPrecision (s : Supply) (a : Amount) :
    Stays i s Prod.snd (a.toPrecision s) := by
  cases a with
  | number n => exact Supply.Reaches.refl s
  | star => exact s.stays_star.bind fun r => Supply.Reaches.refl r.2

lemma Directive.stays_layout (d : Directive) (s : Supply) : Stays i s Prod.snd (d.layout s) := by
  refine (d.width.stays_toWidth d.flags s).bind ?_
  rintro ⟨flags, width, s₁⟩
  simp only
  cases d.precision with
  | none => exact Supply.Reaches.refl s₁
  | some p => exact (p.stays_toPrecision s₁).bind fun r => Supply.Reaches.refl r.2

/-- An error of a directive points to the directive or to what is left of the arguments. -/
theorem Directive.stays_field (d : Directive) (s : Supply) : Stays i s Prod.snd (d.field i s) := by
  refine (d.stays_layout s).bind ?_
  rintro ⟨l, s₁⟩
  simp only
  cases d.tail with
  | missing => exact rfl
  | percent => exact Supply.Reaches.refl s₁
  | unknown b => exact rfl
  | conversion conv =>
    refine s₁.stays_next fun a s₂ => ?_
    cases hf : conv.field? l a with
    | none => exact .inr ⟨conv.letter, rfl⟩
    | some f => exact .inl ⟨(f, s₂), rfl, rfl⟩

end

/-! ## The place of a failure -/

/-- A format that goes no further with some arguments: there is nothing left of it, or the directive
that it starts with cannot be written. -/
inductive Blocked (args : List Argument) : Bytes → Prop
  | nil : Blocked args []
  | directive {rest : Bytes} {e : Error}
      (h : (Directive.read rest).1.field 0 ⟨0, args⟩ = .error e) : Blocked args (code '%' :: rest)

lemma Takes.exists_taken {s s' : Supply} {ds : List Demand} (h : Takes s ds s') :
    ∃ as, s.remaining = as ++ s'.remaining ∧ List.Forall₂ Demand.MetBy ds as := by
  induction ds generalizing s with
  | nil =>
    obtain rfl : s' = s := h
    exact ⟨[], rfl, .nil⟩
  | cons d ds ih =>
    obtain ⟨a, rest, hs, hd, hrest⟩ := h
    obtain ⟨as, has, hmet⟩ := ih hrest
    obtain rfl : rest = as ++ s'.remaining := has
    exact ⟨a :: as, hs, .cons hd hmet⟩

/-- Every format is accepted up to a place where it goes no further, with the first of the
arguments.
-/
lemma exists_blocked (offset : Nat) (fmt : Bytes) (args : List Argument) :
    ∃ f₁ f₂ a₁ a₂ ds, fmt = f₁ ++ f₂ ∧ args = a₁ ++ a₂ ∧ Template f₁ ds ∧
      List.Forall₂ Demand.MetBy ds a₁ ∧ Blocked a₂ f₂ := by
  fun_induction segments offset fmt generalizing args with
  | case1 => exact ⟨[], [], [], args, [], rfl, rfl, .nil, .nil, .nil⟩
  | case2 offset rest r ih =>
    cases hf : r.1.field 0 ⟨0, args⟩ with
    | error e => exact ⟨[], _, [], args, [], rfl, rfl, .nil, .nil, .directive hf⟩
    | ok res =>
      obtain ⟨f, s'⟩ := res
      -- the directive is complete and takes what it asks for, and the rest finds what it leaves
      obtain ⟨⟨l, hl⟩, htakes⟩ := (r.1.field_iff 0).1 ⟨f, hf⟩
      obtain ⟨as, has, hmet⟩ := htakes.exists_taken
      obtain ⟨s, hs, hd⟩ := exists_spelling hl
      obtain ⟨f₁, f₂, a₁, a₂, ds, hfmt, hargs, ht, hmet₁, hblocked⟩ := ih s'.remaining
      have hmetAll : List.Forall₂ Demand.MetBy (s.demands ++ ds) (as ++ a₁) := by
        rw [← s.demands_directive, hd]
        exact List.rel_append hmet hmet₁
      have hrest : rest = s.text ++ (f₁ ++ f₂) := by
        rw [← hfmt]
        exact hs
      have hall : args = as ++ (a₁ ++ a₂) := by
        rw [← hargs]
        exact has
      refine ⟨code '%' :: (s.text ++ f₁), f₂, as ++ a₁, a₂, s.demands ++ ds, ?_, ?_,
        .directive s ht, hmetAll, hblocked⟩
      · rw [hrest, List.cons_append, List.append_assoc]
      · rw [hall, List.append_assoc]
  | case3 offset b rest hb ih =>
    obtain ⟨f₁, f₂, a₁, a₂, ds, rfl, rfl, ht, hmet, hblocked⟩ := ih args
    exact ⟨b :: f₁, f₂, a₁, a₂, ds, rfl, rfl, .literal hb ht, hmet, hblocked⟩

/-- Why a call fails behind the first `k` bytes of its format and the first `m` of its arguments:
the directive that starts there cannot be written, or the format ends there and arguments are left
over.
-/
inductive FailsAt (fmt : Bytes) (args : List Argument) (k m : Nat) : Error → Prop
  | directive {e : Error} (hpercent : fmt[k]? = some (code '%'))
      (hfield : (Directive.read (fmt.drop (k + 1))).1.field k ⟨m, args.drop m⟩ = .error e) :
      FailsAt fmt args k m e
  | unused (hk : k = fmt.length) (hm : m < args.length) :
      FailsAt fmt args k m (.unusedArguments m args.length)

/-- What an error says about the place of the failure. -/
def Error.Locates (fmt : Bytes) (args : List Argument) (k m : Nat) : Error → Prop
  | .missingArgument position => position = args.length
  | .argumentMismatch position _ => m ≤ position ∧ position < args.length
  | .unknownConversion _ offset => offset = k ∧ fmt[k]? = some (code '%')
  | .incompleteDirective offset => offset = k ∧ fmt[k]? = some (code '%')
  | .unusedArguments used supplied =>
    k = fmt.length ∧ used = m ∧ used < supplied ∧ supplied = args.length
  | .unknownArgumentKind _ _ => False

variable {fmt f₁ f₂ : Bytes} {args a₁ a₂ : List Argument} {k m : Nat} {e : Error}

lemma FailsAt.locates (h : FailsAt fmt args k m e) (hm : m ≤ args.length) :
    e.Locates fmt args k m := by
  cases h with
  | unused hk hlt => exact ⟨hk, rfl, hlt, rfl⟩
  | directive hpercent hfield =>
    have hpoints : e.PointsInto k ⟨m, args.drop m⟩ := by
      have hstays := (Directive.read (fmt.drop (k + 1))).1.stays_field (i := k) ⟨m, args.drop m⟩
      rwa [hfield] at hstays
    have hfinish : (⟨m, args.drop m⟩ : Supply).finish = args.length := by
      simp only [Supply.finish, List.length_drop]
      omega
    cases e with
    | missingArgument position => exact Eq.trans hpoints hfinish
    | argumentMismatch position c => exact ⟨hpoints.1, hfinish ▸ hpoints.2⟩
    | unknownConversion c offset => exact ⟨hpoints, hpercent⟩
    | incompleteDirective offset => exact ⟨hpoints, hpercent⟩
    | unknownArgumentKind position kind => exact hpoints
    | unusedArguments used supplied => exact absurd hpoints id

lemma rendering_nil (args : List Argument) : rendering [] args = render ⟨0, args⟩ [] := by
  rw [rendering, segments]

lemma rendering_directive_error {rest : Bytes}
    (h : (Directive.read rest).1.field 0 ⟨0, args⟩ = .error e) :
    rendering (code '%' :: rest) args = ⟨[], .error e⟩ := by
  rw [rendering, segments_percent, render, h]

/-- The walk along a format that goes no further behind an accepted part of it. -/
lemma fails_of_blocked (h₁ : (rendering f₁ a₁).stop = .ok ()) (h₂ : Blocked a₂ f₂)
    (he : (rendering (f₁ ++ f₂) (a₁ ++ a₂)).stop = .error e) :
    (rendering (f₁ ++ f₂) (a₁ ++ a₂)).fields = (rendering f₁ a₁).fields ∧
      FailsAt (f₁ ++ f₂) (a₁ ++ a₂) f₁.length a₁.length e := by
  rw [rendering_append h₁] at he ⊢
  cases h₂ with
  | nil =>
    rw [rendering_nil] at he ⊢
    -- the format is exhausted, so the error is that there are arguments left
    cases a₂ with
    | nil => cases he
    | cons a rest =>
      refine ⟨List.append_nil _, ?_⟩
      have herror : e = .unusedArguments a₁.length (a₁ ++ a :: rest).length := by
        simp only [render, Except.mapError, Error.shift, Except.error.injEq] at he
        rw [← he, List.length_append, Nat.zero_add, Nat.zero_add, Nat.add_comm]
      rw [herror]
      exact .unused (by simp) (by simp)
  | @directive rest e' hfield =>
    rw [rendering_directive_error hfield] at he ⊢
    refine ⟨List.append_nil _, .directive (by simp) ?_⟩
    -- the directive fails in the whole as it fails by itself
    have hcarried : Carried f₁.length a₁.length [] _ _ _ :=
      (Directive.read rest).1.field_carried 0 ⟨0, a₂⟩
    rw [hfield] at hcarried
    have hshifted := hcarried rfl
    simp only [Supply.within, List.append_nil, Nat.zero_add] at hshifted
    rw [← Except.error.inj he, ← hshifted, List.drop_left, ← List.drop_drop, List.drop_left]
    rfl

/-- A call is refused with the error that its walk stopped with, unless a panic hides it. -/
lemma formatInto_eq_error_iff {buffer : Bytes} :
    (formatInto buffer fmt args).2 = .error (.error e) ↔
      (emit buffer.length (rendering fmt args).fields).2 = none ∧
        (rendering fmt args).stop = .error e := by
  rw [formatInto_eq, Rendering.writeTo]
  cases (emit buffer.length (rendering fmt args).fields).2 with
  | some panic => simp
  | none => cases (rendering fmt args).stop <;> simp

end Format

open Format

/-- A call that fails leaves what was accepted before the failure, and says where that is.  There
are `k` bytes of the format and `m` arguments before the directive that cannot be written, or before
the end if it is arguments that are left over; formatting the one with the other is accepted and
makes what stands behind the buffer. -/
theorem formatInto_fails_at {buffer fmt : Bytes} {args : List Argument} {e : Error}
    (h : (formatInto buffer fmt args).2 = .error (.error e)) :
    ∃ k m o, k ≤ fmt.length ∧ m ≤ args.length ∧
      format (fmt.take k) (args.take m) = .ok o ∧ (formatInto buffer fmt args).1 = buffer ++ o ∧
      FailsAt fmt args k m e ∧ e.Locates fmt args k m := by
  obtain ⟨f₁, f₂, a₁, a₂, ds, rfl, rfl, ht, hmet, hblocked⟩ := exists_blocked 0 fmt args
  have hstop₁ : (rendering f₁ a₁).stop = .ok () := (rendering_iff f₁ a₁).2 ⟨ds, ht, hmet⟩
  obtain ⟨hemit, hstop⟩ := formatInto_eq_error_iff.1 h
  obtain ⟨hfields, hfails⟩ := fails_of_blocked hstop₁ hblocked hstop
  rw [hfields] at hemit
  have hfresh := emit_eq_none_of_le (Nat.zero_le _) hemit
  have hformat : format f₁ a₁ = .ok ((rendering f₁ a₁).fields.flatMap Field.bytes) := by
    rw [format_eq_ok_iff_fields, length_flatMap_bytes]
    have hfits := (emit_eq_none_iff (Nat.zero_le _) _).1 hfresh
    exact ⟨hstop₁, rfl, by omega⟩
  refine ⟨f₁.length, a₁.length, (rendering f₁ a₁).fields.flatMap Field.bytes, by simp, by simp,
    ?_, ?_, hfails, hfails.locates (by simp)⟩
  · rw [List.take_left, List.take_left]
    exact hformat
  · rw [formatInto_eq, Rendering.writeTo, hfields, emit_bytes hemit]

/-- The star of the second directive has taken its argument when the next one turns out to be no run
of bytes: the error points to position 2, and what is left is the rendering of three bytes of the
format with one argument. -/
theorem formatInto_fails_at_star :
    let fmt := Ascii.bytes "a%d%*s!"
    let args := [Argument.int 7, .int 3, .int 5]
    let e := Error.argumentMismatch 2 's'
    formatInto (Ascii.bytes "> ") fmt args = (Ascii.bytes "> a7", .error (.error e)) ∧
      ∃ k m o, format (fmt.take k) (args.take m) = .ok o ∧
        Ascii.bytes "> a7" = Ascii.bytes "> " ++ o ∧ FailsAt fmt args k m e ∧ m ≤ 2 := by
  intro fmt args e
  have hrun : formatInto (Ascii.bytes "> ") fmt args = (Ascii.bytes "> a7", .error (.error e)) := by
    decide +kernel
  obtain ⟨k, m, o, -, -, hformat, hbuffer, hfails, hlocates⟩ :=
    formatInto_fails_at (congrArg Prod.snd hrun)
  rw [hrun] at hbuffer
  exact ⟨hrun, k, m, o, hformat, hbuffer, hfails, hlocates.1⟩

end RuntimeSupport

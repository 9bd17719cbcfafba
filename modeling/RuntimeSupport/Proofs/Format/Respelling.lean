import RuntimeSupport.Proofs.Format.Failure
import RuntimeSupport.Proofs.Format.Form

/-!
# Spelling does not matter

A directive can be spelled in more than one way: its flags can stand in any order and number, some
of them have no effect beside others or beside a precision (`Idle`), and length modifiers never have
any.  `Edit` is one such change of what follows a percent sign, and `Respelled` any number of them,
anywhere in a format; it keeps account of where the bytes of the format have gone.

`Directive.effective` takes the flags without effect out of a directive, and no field depends on
them (`Directive.field_effective`).  An edit changes nothing else of what is read (`Edit.read`), so
the segments of the format stay the same up to their offsets.

The main statement is `formatInto_respelled`.
-/

namespace RuntimeSupport

namespace Format

open Ascii

/-! ## Changes of spelling -/

/-- A flag that has no effect beside the flags `flags` and in front of the width and what follows: a
zero beside a minus sign or in front of a precision that is written out, and a space beside a plus
sign.  The value of a star may be that there is no precision, so a star does not count as one. -/
inductive Idle (flags behind : Bytes) : UInt8 → Prop
  | zeroLeft (h : code '-' ∈ flags) : Idle flags behind (code '0')
  | zeroPrecise {width rest : Bytes} (hwidth : IsWidth width) (hrest : rest.head? ≠ some (code '*'))
      (h : behind = width ++ code '.' :: rest) : Idle flags behind (code '0')
  | spacePlus (h : code '+' ∈ flags) : Idle flags behind (code ' ')

/-- One change of what follows the percent sign of a directive, the rest of the format included. -/
inductive Edit : Bytes → Bytes → Prop
  /-- The flags are put in another order, repeated, or joined by some without effect. -/
  | flags {flags flags' rest : Bytes} (hflags : ∀ b ∈ flags, isFlag b)
      (hflags' : ∀ b ∈ flags', isFlag b) (hrest : Stops isFlag rest) (hkept : flags ⊆ flags')
      (hadded : ∀ b ∈ flags', b ∈ flags ∨ Idle flags rest b) :
      Edit (flags ++ rest) (flags' ++ rest)
  /-- The length modifiers are replaced by others, of which there may be none before or after.  What
  stands behind them may be any letter, a byte that is none, or nothing at all, as long as it cannot
  be taken for a flag, a width or a precision. -/
  | modifiers {flags width modifiers modifiers' rest : Bytes} {precision : Option Bytes}
      (hflags : ∀ b ∈ flags, isFlag b) (hwidth : IsWidth width)
      (hprecision : ∀ t, precision = some t → IsPrecision t)
      (hmodifiers : ∀ b ∈ modifiers, isLengthModifier b)
      (hmodifiers' : ∀ b ∈ modifiers', isLengthModifier b) (hrest : ∀ b ∈ rest.head?, Closing b) :
      Edit (flags ++ (width ++ (pointText precision ++ (modifiers ++ rest))))
        (flags ++ (width ++ (pointText precision ++ (modifiers' ++ rest))))

/-- Where an offset goes when what stands behind the offset `place` gets another length. -/
def movedBehind (place before after : Nat) (offset : Nat) : Nat :=
  if offset ≤ place then offset else offset + after - before

/-- A format comes from another one by changes of the spelling of its directives.  The function says
where the offsets of directives have gone. -/
inductive Respelled : (Nat → Nat) → Bytes → Bytes → Prop
  | refl (fmt : Bytes) : Respelled id fmt fmt
  /-- One more directive is changed, which starts behind `front`. -/
  | edit {move : Nat → Nat} {fmt front x y : Bytes} {d : Directive}
      (h : Respelled move fmt (front ++ code '%' :: x))
      (hd : .directive front.length d ∈ segments 0 (front ++ code '%' :: x)) (he : Edit x y) :
      Respelled (movedBehind front.length x.length y.length ∘ move) fmt (front ++ code '%' :: y)

/-- An error with its offset moved. -/
def Error.move (move : Nat → Nat) : Error → Error
  | .unknownConversion c offset => .unknownConversion c (move offset)
  | .incompleteDirective offset => .incompleteDirective (move offset)
  | .missingArgument position => .missingArgument position
  | .argumentMismatch position c => .argumentMismatch position c
  | .unknownArgumentKind position kind => .unknownArgumentKind position kind
  | .unusedArguments used supplied => .unusedArguments used supplied

/-- A failure with its offset moved. -/
def Failure.move (move : Nat → Nat) : Failure → Failure
  | .error e => .error (e.move move)
  | .panic p => .panic p

/-! ## Flags without effect -/

/-- A layout without the flags that have no effect in it. -/
def Layout.effective (l : Layout) : Layout :=
  { l with flags := { l.flags with
      zero := l.flags.zero && !l.flags.left && l.precision.isNone
      space := l.flags.space && !l.flags.plus } }

lemma Layout.numberFill_effective (l : Layout) : l.effective.numberFill = l.numberFill := by
  unfold Layout.numberFill Layout.effective
  cases l.flags.left <;> simp

lemma Layout.sign_effective (l : Layout) (v : Int64) :
    l.effective.flags.sign v = l.flags.sign v := by
  unfold Flags.sign Layout.effective
  cases l.flags.plus <;> simp

lemma Layout.number_effective (l : Layout) (lead digits : Bytes) :
    l.effective.number lead digits = l.number lead digits := by
  unfold Layout.number
  rw [l.numberFill_effective]
  rfl

/-- No conversion looks at flags without effect. -/
lemma Conversion.field?_effective (l : Layout) (a : Argument) (conv : Conversion) :
    conv.field? l.effective a = conv.field? l a := by
  have hsigned : l.effective.signed = l.signed := by
    funext v
    rw [Layout.signed, l.number_effective, l.sign_effective]
    rfl
  have hunsigned : l.effective.unsigned = l.unsigned := by
    funext v
    rw [Layout.unsigned, l.number_effective]
    rfl
  have hhexadecimal : l.effective.hexadecimal = l.hexadecimal := by
    funext upper v
    simp only [Layout.hexadecimal, l.number_effective]
    rfl
  have hoctal : l.effective.octal = l.octal := by
    funext v
    simp only [Layout.octal, l.number_effective]
    rfl
  cases conv with
  | decimal | integer => rw [Conversion.field?, hsigned, Conversion.field?]
  | unsigned => rw [Conversion.field?, hunsigned, Conversion.field?]
  | lowerHex | upperHex => rw [Conversion.field?, hhexadecimal, Conversion.field?]
  | octal => rw [Conversion.field?, hoctal, Conversion.field?]
  | character | string | pointer => rfl

/-- Whether a precision is written out; the value of a star may be that there is none. -/
def Directive.isPrecise (d : Directive) : Bool :=
  match d.precision with
  | some (.number _) => true
  | some .star | none => false

/-- A directive without the flags that have no effect, whatever its arguments are. -/
def Directive.effective (d : Directive) : Directive :=
  { d with flags := { d.flags with
      zero := d.flags.zero && !d.flags.left && !d.isPrecise
      space := d.flags.space && !d.flags.plus } }

/-- An outcome with its layout cut to what has an effect. -/
def cutLayout : Except Error (Layout × Supply) → Except Error (Layout × Supply) :=
  Except.map (Prod.map Layout.effective id)

/-- A width changes no flag but one, to which its sign is added. -/
lemma Amount.toWidth_eq (flags : Flags) (s : Supply) (a : Amount) :
    a.toWidth flags s = (a.toWidth {} s).map fun r =>
      ({ flags with left := flags.left || r.1.left }, r.2) := by
  cases a with
  | number n => simp [Amount.toWidth, Except.map]
  | star =>
    rw [Amount.toWidth, Amount.toWidth]
    cases s.star with
    | error e => rfl
    | ok r => simp [Except.map, bind, Except.bind]

/-- The same flags have an effect in the layouts of both directives, if a precision that is written
out is one. -/
lemma Directive.effective_layout (d : Directive) (negative : Bool) (width : UInt64)
    (precision : Option UInt64) (hp : d.isPrecise → precision.isSome) :
    Layout.effective
        ⟨{ d.effective.flags with left := d.flags.left || negative }, width, precision⟩ =
      Layout.effective ⟨{ d.flags with left := d.flags.left || negative }, width, precision⟩ := by
  have hspace : ((d.flags.space && !d.flags.plus) && !d.flags.plus) =
      (d.flags.space && !d.flags.plus) := by simp
  simp only [Layout.effective, Directive.effective, hspace]
  congr 2
  cases precision with
  | some p => simp
  | none =>
    have hnot : d.isPrecise = false := by simpa using hp
    rw [hnot]
    cases d.flags.left <;> simp

/-- Leaving out flags without effect changes no layout but in flags without effect. -/
lemma Directive.layout_effective (d : Directive) (s : Supply) :
    cutLayout (d.effective.layout s) = cutLayout (d.layout s) := by
  rw [Directive.layout, Directive.layout, Amount.toWidth_eq d.effective.flags,
    Amount.toWidth_eq d.flags]
  show cutLayout ((d.width.toWidth {} s).map _ >>= _) = _
  cases d.width.toWidth {} s with
  | error e => rfl
  | ok r =>
    obtain ⟨flags, width, s₁⟩ := r
    have hcut : ∀ precision s₂, (d.isPrecise → precision.isSome) →
        cutLayout (.ok (⟨{ d.effective.flags with left := d.flags.left || flags.left }, width,
          precision⟩, s₂)) =
        cutLayout (.ok (⟨{ d.flags with left := d.flags.left || flags.left }, width, precision⟩,
          s₂)) := fun precision s₂ hp =>
      congrArg (fun l => Except.ok (l, s₂)) (d.effective_layout flags.left width precision hp)
    have hprecision : d.effective.precision = d.precision := rfl
    simp only [Except.map, hprecision, bind, Except.bind]
    cases hp : d.precision with
    | none => exact hcut none s₁ (by simp [isPrecise, hp])
    | some p =>
      cases p with
      | number n => exact hcut (some n) s₁ (by simp)
      | star =>
        simp only [Amount.toPrecision]
        cases s₁.star with
        | error e => rfl
        | ok r => exact hcut _ r.2 (by simp [isPrecise, hp])

/-- Whoever goes on with what has an effect in a layout does not tell apart two that agree in it. -/
lemma bind_eq_of_cutLayout {α : Type} {x y : Except Error (Layout × Supply)}
    {next : Layout × Supply → Except Error α} (h : cutLayout x = cutLayout y)
    (hnext : ∀ l l' s, Layout.effective l = Layout.effective l' → next (l, s) = next (l', s)) :
    x >>= next = y >>= next := by
  rcases x with e | ⟨l, s⟩
  · rcases y with e' | r
    · obtain rfl : e = e' := Except.error.inj h
      rfl
    · cases h
  · rcases y with e' | ⟨l', s'⟩
    · cases h
    · obtain ⟨hl, rfl⟩ := Prod.mk.inj (Except.ok.inj h)
      exact hnext l l' s hl

/-- No directive depends on its flags without effect. -/
theorem Directive.field_effective (offset : Nat) (d : Directive) (s : Supply) :
    d.effective.field offset s = d.field offset s := by
  refine bind_eq_of_cutLayout (d.layout_effective s) fun l l' s' hl => ?_
  -- the layouts differ only in what no conversion looks at
  have hfield : ∀ conv a, Conversion.field? l a conv = Conversion.field? l' a conv := by
    intro conv a
    rw [← Conversion.field?_effective l, hl, Conversion.field?_effective l']
  have htail : d.effective.tail = d.tail := rfl
  simp only [htail, hfield]

/-! ## Moved offsets -/

/-- A rendering with the offset of its error moved. -/
def Rendering.move (move : Nat → Nat) (r : Rendering) : Rendering :=
  ⟨r.fields, r.stop.mapError (Error.move move)⟩

lemma Rendering.move_id (r : Rendering) : r.move id = r := by
  obtain ⟨fields, e | u⟩ := r
  · cases e <;> rfl
  · rfl

lemma Rendering.move_comp (move move' : Nat → Nat) (r : Rendering) :
    r.move (move' ∘ move) = (r.move move).move move' := by
  obtain ⟨fields, e | u⟩ := r
  · cases e <;> rfl
  · rfl

lemma Rendering.writeTo_move (buffer : Bytes) (move : Nat → Nat) (r : Rendering) :
    (r.move move).writeTo buffer =
      ((r.writeTo buffer).1, (r.writeTo buffer).2.mapError (Failure.move move)) := by
  obtain ⟨fields, stop⟩ := r
  simp only [Rendering.writeTo, Rendering.move]
  cases (emit buffer.length fields).2 with
  | some panic => rfl
  | none => cases stop <;> rfl

/-- An error of a layout has no offset, since it would have to be that of any directive. -/
lemma Directive.move_of_layout {d : Directive} {s : Supply} {e : Error} (h : d.layout s = .error e)
    (move : Nat → Nat) : e.move move = e := by
  have hpoints : ∀ i, e.PointsInto i s := by
    intro i
    have hstays := d.stays_layout (i := i) s
    rwa [h] at hstays
  cases e with
  | unknownConversion c offset => exact absurd (hpoints (offset + 1)) (by simp [Error.PointsInto])
  | incompleteDirective offset => exact absurd (hpoints (offset + 1)) (by simp [Error.PointsInto])
  | missingArgument position => rfl
  | argumentMismatch position c => rfl
  | unknownArgumentKind position kind => rfl
  | unusedArguments used supplied => rfl

/-- The offset of a directive shows in its errors and nowhere else. -/
lemma Directive.field_move (move : Nat → Nat) (offset : Nat) (d : Directive) (s : Supply) :
    d.field (move offset) s = (d.field offset s).mapError (Error.move move) := by
  rw [Directive.field, Directive.field]
  cases hd : d.layout s with
  | error e => exact congrArg Except.error (Directive.move_of_layout hd move).symm
  | ok r =>
    obtain ⟨l, s₁⟩ := r
    simp only [bind, Except.bind]
    cases d.tail with
    | missing => rfl
    | percent => rfl
    | unknown b => rfl
    | conversion conv =>
      obtain ⟨k, _ | ⟨a, rest⟩⟩ := s₁
      · rfl
      · simp only [Supply.next]
        cases conv.field? l a <;> rfl

/-- A segment that is another one up to its offset and to flags without effect. -/
inductive Segment.Respelled (move : Nat → Nat) : Segment → Segment → Prop
  | literal (b : UInt8) : Respelled move (.literal b) (.literal b)
  | directive {offset : Nat} {d d' : Directive} (h : d'.effective = d.effective) :
      Respelled move (.directive offset d) (.directive (move offset) d')

lemma render_respelled {move : Nat → Nat} {segs segs' : List Segment}
    (h : List.Forall₂ (Segment.Respelled move) segs segs') (s : Supply) :
    render s segs' = (render s segs).move move := by
  induction h generalizing s with
  | nil =>
    obtain ⟨k, _ | ⟨a, rest⟩⟩ := s
    · rfl
    · rfl
  | cons hseg _ ih =>
    cases hseg with
    | literal b =>
      rw [render, ih, render]
      rfl
    | @directive offset d d' h =>
      have hfield : d'.field (move offset) s = (d.field offset s).mapError (Error.move move) := by
        rw [← d'.field_effective, h, d.field_effective, d.field_move]
      rw [render, hfield, render]
      cases d.field offset s with
      | error e => rfl
      | ok r =>
        simp only [Except.mapError]
        rw [ih]
        rfl

/-! ## What an edit changes of what is read -/

lemma Directive.read_flags {flags rest : Bytes} (hflags : ∀ b ∈ flags, isFlag b)
    (hrest : Stops isFlag rest) :
    Directive.read (flags ++ rest) =
      ({ (Directive.read rest).1 with flags := Flags.among flags }, (Directive.read rest).2) := by
  rw [Directive.read, Directive.read]
  simp only [Flags.read_eq, List.takeWhile_append_of_pos hflags,
    List.dropWhile_append_of_pos hflags, hrest.takeWhile_eq, hrest.dropWhile_eq, List.append_nil,
    Flags.addAll_empty]

lemma Directive.isPrecise_read {width rest : Bytes} (hwidth : IsWidth width)
    (hrest : rest.head? ≠ some (code '*')) (hflag : Stops isFlag (width ++ code '.' :: rest)) :
    (Directive.read (width ++ code '.' :: rest)).1.isPrecise = true := by
  have hpoint : Stops isAmountByte (code '.' :: rest) := stops_cons (by decide)
  have hw := amountText_append hwidth.isPrecision hpoint
  have hread : (Directive.read (width ++ code '.' :: rest)).1.precision =
      some (Amount.read rest).1 := by
    simp only [Directive.read, Flags.read_eq, hflag.dropWhile_eq, Amount.read_eq, hw, readPrecision,
      if_true]
  rw [isPrecise, hread]
  cases rest with
  | nil => rfl
  | cons b more => rw [Amount.read, if_neg (by simpa using hrest)]

lemma Idle.eq_zero_or_space {flags behind : Bytes} {b : UInt8} (h : Idle flags behind b) :
    b = code '0' ∧ (code '-' ∈ flags ∨ ∃ width rest, IsWidth width ∧ rest.head? ≠ some (code '*') ∧
      behind = width ++ code '.' :: rest) ∨ b = code ' ' ∧ code '+' ∈ flags := by
  cases h with
  | zeroLeft h => exact .inl ⟨rfl, .inl h⟩
  | zeroPrecise hwidth hrest h => exact .inl ⟨rfl, .inr ⟨_, _, hwidth, hrest, h⟩⟩
  | spacePlus h => exact .inr ⟨rfl, h⟩

lemma effective_flags {flags flags' rest : Bytes} (hrest : Stops isFlag rest)
    (hkept : flags ⊆ flags') (hadded : ∀ b ∈ flags', b ∈ flags ∨ Idle flags rest b) :
    let d := (Directive.read rest).1
    { d with flags := Flags.among flags' }.effective =
      { d with flags := Flags.among flags }.effective := by
  intro d
  have hcontains : ∀ b, ¬Idle flags rest b → flags'.contains b = flags.contains b := by
    intro b hb
    rw [Bool.eq_iff_iff, List.contains_iff_mem, List.contains_iff_mem]
    exact ⟨fun h => (hadded b h).resolve_right hb, fun h => hkept h⟩
  have hbusy : ∀ b, b ≠ code '0' → b ≠ code ' ' → flags'.contains b = flags.contains b :=
    fun b h0 hspace => hcontains b fun h =>
      h.eq_zero_or_space.elim (fun h => h0 h.1) (fun h => hspace h.1)
  have hleft := hbusy (code '-') (by decide) (by decide)
  have hplus := hbusy (code '+') (by decide) (by decide)
  have halternate := hbusy (code '#') (by decide) (by decide)
  have hzero : (flags'.contains (code '0') && !flags.contains (code '-') && !d.isPrecise) =
      (flags.contains (code '0') && !flags.contains (code '-') && !d.isPrecise) := by
    by_cases hidle : Idle flags rest (code '0')
    · rcases hidle.eq_zero_or_space with ⟨-, hmem | ⟨width, more, hwidth, hmore, rfl⟩⟩ | ⟨h, -⟩
      · rw [List.contains_iff_mem.2 hmem]
        simp
      · have hprecise : d.isPrecise = true := Directive.isPrecise_read hwidth hmore hrest
        simp [hprecise]
      · exact absurd h (by decide)
    · rw [hcontains _ hidle]
  have hspace : (flags'.contains (code ' ') && !flags.contains (code '+')) =
      (flags.contains (code ' ') && !flags.contains (code '+')) := by
    by_cases hidle : Idle flags rest (code ' ')
    · rcases hidle.eq_zero_or_space with ⟨h, -⟩ | ⟨-, hmem⟩
      · exact absurd h (by decide)
      · rw [List.contains_iff_mem.2 hmem]
        simp
    · rw [hcontains _ hidle]
  have hprecise : ∀ fl, Directive.isPrecise { d with flags := fl } = d.isPrecise := fun _ => rfl
  simp only [Directive.effective, Flags.among, hprecise, hleft, hplus, halternate, hzero, hspace]

/-- An edit changes no more of what is read than flags without effect. -/
theorem Edit.read {x y : Bytes} (h : Edit x y) :
    (Directive.read y).1.effective = (Directive.read x).1.effective ∧
      (Directive.read y).2 = (Directive.read x).2 := by
  cases h with
  | flags hflags hflags' hrest hkept hadded =>
    rw [Directive.read_flags hflags hrest, Directive.read_flags hflags' hrest]
    exact ⟨effective_flags hrest hkept hadded, rfl⟩
  | modifiers hflags hwidth hprecision hmodifiers hmodifiers' hrest =>
    rw [Directive.read_parts hflags hwidth hprecision hmodifiers hrest,
      Directive.read_parts hflags hwidth hprecision hmodifiers' hrest]
    exact ⟨rfl, rfl⟩

lemma Segment.Respelled.same {move : Nat → Nat} {segs : List Segment}
    (h : ∀ offset d, .directive offset d ∈ segs → move offset = offset) :
    List.Forall₂ (Segment.Respelled move) segs segs := by
  rw [List.forall₂_same]
  intro seg hseg
  cases seg with
  | literal b => exact .literal b
  | directive offset d =>
    have hmoved : Segment.Respelled move (.directive offset d) (.directive (move offset) d) :=
      .directive rfl
    rwa [h offset d hseg] at hmoved

lemma Segment.Respelled.shifted {move : Nat → Nat} {i j : Nat} (segs : List Segment)
    (h : ∀ offset, move (offset + i) = offset + j) :
    List.Forall₂ (Segment.Respelled move) (segs.map (Segment.shift i))
      (segs.map (Segment.shift j)) := by
  rw [List.forall₂_map_left_iff, List.forall₂_map_right_iff, List.forall₂_same]
  intro seg _
  cases seg with
  | literal b => exact .literal b
  | directive offset d =>
    rw [Segment.shift, Segment.shift, ← h offset]
    exact .directive rfl

/-- The segments in front of a directive that is edited stay where they are, and those behind it are
moved. -/
lemma segments_edit {front x y : Bytes} (hfront : Whole front) (h : Edit x y) :
    List.Forall₂ (Segment.Respelled (movedBehind front.length x.length y.length))
      (segments 0 (front ++ code '%' :: x)) (segments 0 (front ++ code '%' :: y)) := by
  obtain ⟨heffective, hrest⟩ := h.read
  have hstays : ∀ offset ≤ front.length,
      movedBehind front.length x.length y.length offset = offset := fun offset hle => if_pos hle
  rw [segments_append 0 hfront, segments_append 0 hfront, Nat.zero_add, segments_percent,
    segments_percent, hrest]
  refine List.rel_append (Segment.Respelled.same ?_) (.cons ?_ ?_)
  · intro offset d hmem
    have hlt := (offset_of_mem_segments hmem).2
    exact hstays offset (by omega)
  · have hplace : Segment.Respelled (movedBehind front.length x.length y.length)
        (.directive front.length _) (.directive (movedBehind _ _ _ front.length) _) :=
      .directive heffective
    rwa [hstays _ (Nat.le_refl _)] at hplace
  · have hx : (Directive.read x).2.length ≤ x.length := Directive.length_read_le x
    have hy : (Directive.read x).2.length ≤ y.length := hrest ▸ Directive.length_read_le y
    rw [← Nat.zero_add (front.length + 1 + (x.length - (Directive.read x).2.length)),
      ← Nat.zero_add (front.length + 1 + (y.length - (Directive.read x).2.length)), segments_shift,
      segments_shift]
    refine Segment.Respelled.shifted _ fun offset => ?_
    rw [movedBehind, if_neg (by omega)]
    omega

lemma rendering_respelled {move : Nat → Nat} {f g : Bytes} (h : Respelled move f g)
    (args : List Argument) : rendering g args = (rendering f args).move move := by
  induction h with
  | refl fmt => exact (Rendering.move_id _).symm
  | @edit move fmt front x y d _ hd he ih =>
    have hfront := (whole_iff_mem_segments x).2 ⟨d, hd⟩
    rw [Rendering.move_comp, ← ih]
    exact render_respelled (segments_edit hfront he) ⟨0, args⟩

end Format

open Format

/-- Spelling does not matter.  Whatever directives of a format are spelled in another way, a call
leaves the same bytes and comes to the same result, except that an error of a directive counts its
offset in the new format. -/
theorem formatInto_respelled {move : Nat → Nat} {f g : Bytes} (h : Respelled move f g)
    (buffer : Bytes) (args : List Argument) :
    formatInto buffer g args =
      ((formatInto buffer f args).1, (formatInto buffer f args).2.mapError (Failure.move move)) ∧
    format g args = (format f args).mapError (Failure.move move) := by
  have hinto : ∀ buffer, formatInto buffer g args =
      ((formatInto buffer f args).1,
        (formatInto buffer f args).2.mapError (Failure.move move)) := by
    intro buffer
    rw [formatInto_eq, rendering_respelled h, Rendering.writeTo_move, ← formatInto_eq]
  refine ⟨hinto buffer, ?_⟩
  rw [format, hinto [], format]
  rcases formatInto [] f args with ⟨out, f | n⟩
  · rfl
  · rfl

open Ascii in
/-- Flags in another order, a space beside a plus sign, zeros beside a minus sign and in front of a
precision, and length modifiers: the numbers come out the same, and the percent sign at fault has
gone from offset 11 to 17. -/
theorem formatInto_respelled_unknown :
    let f := bytes "%+-5d|%.3x|%q"
    let g := bytes "%-0+ -5d|%0.3hhx|%q"
    ∃ move, Respelled move f g ∧ move 11 = 17 ∧
      formatInto (bytes "> ") g [.int 7, .uint 15] =
        (bytes "> +7   |00f|", .error (.error (.unknownConversion 'q' 17))) := by
  intro f g
  have hfirst : Edit (bytes "+-5d|%.3x|%q") (bytes "-0+ -5d|%.3x|%q") := by
    refine @Edit.flags (bytes "+-") (bytes "-0+ -") (bytes "5d|%.3x|%q") (by decide +kernel)
      (by decide +kernel) (by unfold Stops; decide +kernel) (by decide +kernel) ?_
    have hflags : ∀ b ∈ bytes "-0+ -", b ∈ bytes "+-" ∨ b = code '0' ∨ b = code ' ' := by
      decide +kernel
    intro b hb
    rcases hflags b hb with h | rfl | rfl
    · exact .inl h
    · exact .inr (.zeroLeft (by decide +kernel))
    · exact .inr (.spacePlus (by decide +kernel))
  have hsecond : Edit (bytes ".3x|%q") (bytes "0.3x|%q") := by
    refine @Edit.flags [] (bytes "0") (bytes ".3x|%q") (by simp) (by decide +kernel)
      (by unfold Stops; decide +kernel) (by simp) ?_
    intro b hb
    obtain rfl : b = code '0' := List.mem_singleton.1 hb
    exact .inr (@Idle.zeroPrecise [] _ [] (bytes "3x|%q") (.inr (by simp)) (by decide +kernel) rfl)
  have hthird : Edit (bytes "0.3x|%q") (bytes "0.3hhx|%q") :=
    @Edit.modifiers (bytes "0") [] [] (bytes "hh") (bytes "x|%q") (some (bytes "3"))
      (by decide +kernel) (.inr (by simp)) (by rintro t ⟨rfl⟩; exact .inr (by decide +kernel))
      (by simp) (by decide +kernel) (by unfold Closing; decide +kernel)
  have h₁ := @Respelled.edit id f [] (bytes "+-5d|%.3x|%q") (bytes "-0+ -5d|%.3x|%q")
    ⟨⟨true, false, true, false, false⟩, .number 5, none, .conversion .decimal⟩ (.refl f)
    (by decide +kernel) hfirst
  have hplace : [] ++ code '%' :: bytes "-0+ -5d|%.3x|%q" =
      bytes "%-0+ -5d|" ++ code '%' :: bytes ".3x|%q" := by decide +kernel
  rw [hplace] at h₁
  have h₂ := Respelled.edit (d := ⟨{}, .number 0, some (.number 3), .conversion .lowerHex⟩) h₁
    (by decide +kernel) hsecond
  have h₃ := Respelled.edit
    (d := ⟨{ zero := true }, .number 0, some (.number 3), .conversion .lowerHex⟩) h₂
    (by decide +kernel) hthird
  have hg : bytes "%-0+ -5d|" ++ code '%' :: bytes "0.3hhx|%q" = g := by decide +kernel
  rw [hg] at h₃
  refine ⟨_, h₃, by decide +kernel, ?_⟩
  rw [(formatInto_respelled h₃ _ _).1]
  decide +kernel

end RuntimeSupport

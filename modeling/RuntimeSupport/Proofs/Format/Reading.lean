import Mathlib.Data.List.TakeWhile
import Mathlib.Tactic.SplitIfs
import RuntimeSupport.Format.Directive

/-!
# What the parts of a directive take

Each part of a directive is read by maximal munch: flags, digits and length modifiers are the
longest run of bytes of one class.  `Flags.read_eq`, `readDecimal_eq` and `Amount.read_eq` say so
with `takeWhile` and `dropWhile`, so that every later argument about reading is one about where such
a run stops (`Stops`).

The main statements are `Directive.read_append`, that a directive which does not end before its
letter is read the same whatever follows it, and `Directive.tail_ne_missing`, that it does not end
before its letter if it leaves what follows it; so reading never looks past the letter.
-/

namespace RuntimeSupport.Format

open Ascii

/-! ## Where a run of bytes stops -/

/-- The bytes do not go on with one of the given class. -/
def Stops (p : UInt8 → Bool) (bs : Bytes) : Prop := ∀ b ∈ bs.head?, p b = false

lemma stops_dropWhile (p : UInt8 → Bool) (bs : Bytes) : Stops p (bs.dropWhile p) := by
  intro b hb
  have := List.head?_dropWhile_not p bs
  rw [Option.mem_def.1 hb] at this
  simpa using this

lemma stops_cons {p : UInt8 → Bool} {b : UInt8} {rest : Bytes} (h : p b = false) :
    Stops p (b :: rest) := by
  intro c hc
  have hcb : b = c := by simpa using hc
  exact hcb ▸ h

lemma Stops.dropWhile_eq {p : UInt8 → Bool} {bs : Bytes} (h : Stops p bs) :
    bs.dropWhile p = bs := by
  cases bs with
  | nil => rfl
  | cons b bs => rw [List.dropWhile_cons, if_neg (by simp [h b (by simp)])]

lemma Stops.takeWhile_eq {p : UInt8 → Bool} {bs : Bytes} (h : Stops p bs) :
    bs.takeWhile p = [] := by
  cases bs with
  | nil => rfl
  | cons b bs => rw [List.takeWhile_cons, if_neg (by simp [h b (by simp)])]

/-- A run that stops before the end of the bytes stops there whatever follows them. -/
lemma dropWhile_append_of_ne_nil {p : UInt8 → Bool} {bs : Bytes} (h : bs.dropWhile p ≠ [])
    (more : Bytes) : (bs ++ more).dropWhile p = bs.dropWhile p ++ more := by
  rw [List.dropWhile_append, if_neg (by simpa using h)]

lemma takeWhile_append_of_ne_nil {p : UInt8 → Bool} {bs : Bytes} (h : bs.dropWhile p ≠ [])
    (more : Bytes) : (bs ++ more).takeWhile p = bs.takeWhile p := by
  have hlen : (bs.takeWhile p).length ≠ bs.length := by
    intro hl
    have hsplit := congrArg List.length (List.takeWhile_append_dropWhile (p := p) (l := bs))
    rw [List.length_append] at hsplit
    exact h (List.eq_nil_of_length_eq_zero (by omega))
  rw [List.takeWhile_append, if_neg hlen]

/-! ## Flags -/

/-- Whether a byte is a flag. -/
def isFlag (b : UInt8) : Bool := b ∈ [code '-', code '0', code '+', code ' ', code '#']

/-- The flags with those that the given bytes stand for. -/
def Flags.addAll (f : Flags) (bs : Bytes) : Flags := bs.foldl (fun f b => (f.add? b).getD f) f

lemma Flags.isSome_add? (f : Flags) (b : UInt8) : (f.add? b).isSome = isFlag b := by
  unfold Flags.add? isFlag
  split_ifs <;> simp_all

lemma Flags.read_eq (f : Flags) (bs : Bytes) :
    f.read bs = (f.addAll (bs.takeWhile isFlag), bs.dropWhile isFlag) := by
  induction bs generalizing f with
  | nil => rfl
  | cons b bs ih =>
    have hb := f.isSome_add? b
    rw [Flags.read, List.takeWhile_cons, List.dropWhile_cons, ← hb]
    cases hf : f.add? b with
    | none => rfl
    | some f' =>
      simp only [Option.isSome_some, if_true]
      rw [ih, Flags.addAll, Flags.addAll, List.foldl_cons, hf, Option.getD_some]

/-! ## Numerals, widths and precisions -/

/-- The number that digits stand for when they follow a number that has been read; it saturates. -/
def decimalFrom (n : UInt64) (ds : Bytes) : UInt64 :=
  ds.foldl (fun n b => Word.saturate (n.toNat * 10 + digitValue b)) n

lemma readDecimal_eq (n : UInt64) (bs : Bytes) :
    readDecimal n bs = (decimalFrom n (bs.takeWhile isDigit), bs.dropWhile isDigit) := by
  induction bs generalizing n with
  | nil => rfl
  | cons b bs ih =>
    rw [readDecimal, List.takeWhile_cons, List.dropWhile_cons]
    split
    · rw [ih]
      rfl
    · rfl

/-- The amount that a text stands for: a star, or the number that its digits stand for. -/
def Amount.ofText (bs : Bytes) : Amount :=
  if bs = [code '*'] then .star else .number (decimalFrom 0 bs)

/-- The bytes that are taken as a width or a precision. -/
def amountText : Bytes → Bytes
  | [] => []
  | b :: rest => if b = code '*' then [b] else (b :: rest).takeWhile isDigit

/-- The bytes that are left behind a width or a precision. -/
def afterAmount : Bytes → Bytes
  | [] => []
  | b :: rest => if b = code '*' then rest else (b :: rest).dropWhile isDigit

lemma isDigit_star : isDigit (code '*') = false := by decide

lemma amountText_append_afterAmount (bs : Bytes) : amountText bs ++ afterAmount bs = bs := by
  cases bs with
  | nil => rfl
  | cons b rest =>
    simp only [amountText, afterAmount]
    split
    · rfl
    · exact List.takeWhile_append_dropWhile

/-- A run of digits is never a lone star. -/
lemma takeWhile_isDigit_ne_star (bs : Bytes) : bs.takeWhile isDigit ≠ [code '*'] := by
  intro h
  have := List.mem_takeWhile_imp (h ▸ List.mem_singleton_self _ : code '*' ∈ bs.takeWhile isDigit)
  rw [isDigit_star] at this
  exact absurd this (by simp)

lemma Amount.read_eq (bs : Bytes) :
    Amount.read bs = (Amount.ofText (amountText bs), afterAmount bs) := by
  cases bs with
  | nil => rfl
  | cons b rest =>
    simp only [Amount.read, amountText, afterAmount]
    split
    · next hb => rw [Amount.ofText, if_pos (by rw [hb])]
    · rw [readDecimal_eq, Amount.ofText, if_neg (takeWhile_isDigit_ne_star _)]

/-! ## Reading looks no further than it takes -/

/-- What a reader does, unless it takes all there is, does not depend on what comes later. -/
def LooksNoFurther {α : Type} (read : Bytes → α × Bytes) : Prop :=
  ∀ bs more, (read bs).2 ≠ [] → read (bs ++ more) = ((read bs).1, (read bs).2 ++ more)

lemma Flags.looksNoFurther_read (f : Flags) : LooksNoFurther f.read := by
  intro bs more h
  rw [f.read_eq] at h ⊢
  rw [f.read_eq, takeWhile_append_of_ne_nil h, dropWhile_append_of_ne_nil h]

lemma looksNoFurther_readDecimal (n : UInt64) : LooksNoFurther (readDecimal n) := by
  intro bs more h
  rw [readDecimal_eq] at h ⊢
  rw [readDecimal_eq, takeWhile_append_of_ne_nil h, dropWhile_append_of_ne_nil h]

lemma Amount.looksNoFurther_read : LooksNoFurther Amount.read := by
  intro bs more h
  cases bs with
  | nil => exact absurd rfl h
  | cons b rest =>
    simp only [List.cons_append, Amount.read] at h ⊢
    split
    · rfl
    · next hb =>
      rw [if_neg hb] at h
      rw [← List.cons_append, looksNoFurther_readDecimal 0 _ _ h]

lemma looksNoFurther_readPrecision : LooksNoFurther readPrecision := by
  intro bs more h
  cases bs with
  | nil => exact absurd rfl h
  | cons b rest =>
    simp only [List.cons_append, readPrecision] at h ⊢
    split
    · next hb =>
      rw [if_pos hb] at h
      rw [Amount.looksNoFurther_read _ _ h]
    · rfl

/-- A directive that has its letter is read the same whatever follows it. -/
theorem Directive.read_append {bs : Bytes} (h : (Directive.read bs).1.tail ≠ .missing)
    (more : Bytes) :
    Directive.read (bs ++ more) = ((Directive.read bs).1, (Directive.read bs).2 ++ more) := by
  -- The letter is there, so no part before it has taken all there is.
  have h₄ :
      (readPrecision (Amount.read (Flags.read {} bs).2).2).2.dropWhile isLengthModifier ≠ [] := by
    intro hnil
    refine h ?_
    show (Tail.read _).1 = _
    rw [hnil]
    rfl
  have h₃ : (readPrecision (Amount.read (Flags.read {} bs).2).2).2 ≠ [] := by
    intro hnil
    exact h₄ (by rw [hnil]; rfl)
  have h₂ : (Amount.read (Flags.read {} bs).2).2 ≠ [] := by
    intro hnil
    exact h₃ (by rw [hnil]; rfl)
  have h₁ : (Flags.read {} bs).2 ≠ [] := by
    intro hnil
    exact h₂ (by rw [hnil]; rfl)
  unfold Directive.read
  simp only [Flags.looksNoFurther_read _ _ more h₁, Amount.looksNoFurther_read _ more h₂,
    looksNoFurther_readPrecision _ more h₃, dropWhile_append_of_ne_nil h₄ more]
  cases hd : (readPrecision (Amount.read (Flags.read {} bs).2).2).2.dropWhile isLengthModifier with
  | nil => exact absurd hd h₄
  | cons b rest => rfl

/-! ## Reading takes a stretch from the front -/

/-- Something is dropped from the front of some bytes.  If the bytes go on, so does what is left, by
all of what follows or by a part of it from whose front more has been dropped. -/
def DropsFront (drop : Bytes → Bytes) : Prop :=
  ∀ bs more, ∃ kept, drop (bs ++ more) = drop bs ++ kept ∧ kept <:+ more

lemma DropsFront.comp {first second : Bytes → Bytes} (h₂ : DropsFront second)
    (h₁ : DropsFront first) : DropsFront (second ∘ first) := by
  intro bs more
  obtain ⟨kept, hfirst, hkept⟩ := h₁ bs more
  obtain ⟨kept', hsecond, hkept'⟩ := h₂ (first bs) kept
  exact ⟨kept', by rw [Function.comp_apply, hfirst, hsecond, Function.comp_apply],
    hkept'.trans hkept⟩

lemma dropsFront_dropWhile (p : UInt8 → Bool) : DropsFront (List.dropWhile p) := by
  intro bs more
  by_cases hnil : bs.dropWhile p = []
  · exact ⟨more.dropWhile p, by rw [List.dropWhile_append, if_pos (by simpa using hnil), hnil,
      List.nil_append], List.dropWhile_suffix p⟩
  · exact ⟨more, dropWhile_append_of_ne_nil hnil more, List.suffix_rfl⟩

lemma afterAmount_suffix (bs : Bytes) : afterAmount bs <:+ bs :=
  ⟨amountText bs, amountText_append_afterAmount bs⟩

lemma dropsFront_afterAmount : DropsFront afterAmount := by
  intro bs more
  cases bs with
  | nil => exact ⟨afterAmount more, rfl, afterAmount_suffix more⟩
  | cons b rest =>
    simp only [List.cons_append, afterAmount]
    split
    · exact ⟨more, rfl, List.suffix_rfl⟩
    · exact dropsFront_dropWhile isDigit (b :: rest) more

lemma readPrecision_suffix (bs : Bytes) : (readPrecision bs).2 <:+ bs := by
  cases bs with
  | nil => exact List.suffix_rfl
  | cons b rest =>
    rw [readPrecision]
    split
    · rw [Amount.read_eq]
      exact (afterAmount_suffix rest).trans (List.suffix_cons b rest)
    · exact List.suffix_rfl

lemma dropsFront_readPrecision : DropsFront fun bs => (readPrecision bs).2 := by
  intro bs more
  cases bs with
  | nil => exact ⟨_, rfl, readPrecision_suffix more⟩
  | cons b rest =>
    simp only [List.cons_append, readPrecision]
    split
    · simp only [Amount.read_eq]
      exact dropsFront_afterAmount rest more
    · exact ⟨more, rfl, List.suffix_rfl⟩

/-- What is left of a directive from its letter on. -/
def Directive.ending (bs : Bytes) : Bytes :=
  (readPrecision (afterAmount (bs.dropWhile isFlag))).2.dropWhile isLengthModifier

lemma Directive.dropsFront_ending : DropsFront Directive.ending :=
  (dropsFront_dropWhile isLengthModifier).comp
    (dropsFront_readPrecision.comp (dropsFront_afterAmount.comp (dropsFront_dropWhile isFlag)))

lemma Directive.read_ending (bs : Bytes) :
    (Directive.read bs).1.tail = (Tail.read (Directive.ending bs)).1 ∧
      (Directive.read bs).2 = (Tail.read (Directive.ending bs)).2 := by
  simp only [Directive.read, Flags.read_eq, Amount.read_eq]
  exact ⟨rfl, rfl⟩

lemma Tail.ofByte_ne_missing (b : UInt8) : Tail.ofByte b ≠ .missing := by
  unfold Tail.ofByte
  split
  · simp
  · split <;> simp

lemma Directive.tail_eq_missing_iff (bs : Bytes) :
    (Directive.read bs).1.tail = .missing ↔ Directive.ending bs = [] := by
  rw [(Directive.read_ending bs).1]
  cases Directive.ending bs with
  | nil => exact iff_of_true rfl rfl
  | cons b rest => exact iff_of_false (Tail.ofByte_ne_missing b) (List.cons_ne_nil b rest)

/-- A directive that leaves bytes which are put behind it has its letter before them. -/
theorem Directive.tail_ne_missing {bs more : Bytes} (hmore : more ≠ [])
    (hle : more.length ≤ (Directive.read (bs ++ more)).2.length) :
    (Directive.read bs).1.tail ≠ .missing := by
  -- otherwise the letter would be one of these bytes, and so not all of them would be left
  intro hmissing
  obtain ⟨kept, hkept, hsuffix⟩ := Directive.dropsFront_ending bs more
  rw [(Directive.tail_eq_missing_iff bs).1 hmissing, List.nil_append] at hkept
  rw [(Directive.read_ending (bs ++ more)).2, hkept] at hle
  cases kept with
  | nil => exact hmore (List.eq_nil_of_length_eq_zero (Nat.le_zero.1 hle))
  | cons b rest =>
    have hlength := hsuffix.length_le
    rw [List.length_cons] at hlength
    have hrest : more.length ≤ rest.length := hle
    omega

end RuntimeSupport.Format

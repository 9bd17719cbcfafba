import RuntimeSupport.Format.Argument
import RuntimeSupport.Format.Template
import RuntimeSupport.Proofs.Format.Reading

/-!
# How directives are spelled

The grammar of formats, stated apart from the reader.  A `Spelling` is the text of a complete
directive behind its percent sign, divided into its parts; a width never starts with a zero, since
a zero there would be one more flag.  `Template fmt ds` says that a format is a sequence of literal
bytes and spelled directives which together ask for the arguments `ds`.

The main statements join the grammar to the reader:

* `Spelling.read_text`: a spelled directive is read as what it stands for, and no further;
* `exists_spelling`: whatever is read as a complete directive was spelled so;
* `template_iff_segments`: the formats of the grammar are those all of whose directives are
  complete.
-/

namespace RuntimeSupport.Format

open Ascii

/-! ## The parts of a directive -/

/-- How a complete directive ends. -/
inductive Letter
  /-- With a second percent sign. -/
  | percent
  /-- With the letter of a conversion. -/
  | conversion (conv : Conversion)
  deriving DecidableEq, Repr

/-- The byte of a letter. -/
def Letter.byte : Letter → UInt8
  | percent => code '%'
  | conversion conv => code conv.letter

/-- The ending that a letter stands for. -/
def Letter.tail : Letter → Tail
  | percent => .percent
  | conversion conv => .conversion conv

/-- A star, or a decimal numeral without a leading zero; no digit at all is no width. -/
def IsWidth (bs : Bytes) : Prop :=
  bs = [code '*'] ∨ (∀ b ∈ bs, isDigit b) ∧ bs.head? ≠ some (code '0')

/-- A star, or decimal digits, if any. -/
def IsPrecision (bs : Bytes) : Prop := bs = [code '*'] ∨ ∀ b ∈ bs, isDigit b

/-- A precision with the point that announces it, or nothing. -/
def pointText : Option Bytes → Bytes
  | none => []
  | some p => code '.' :: p

/-- The text of a complete directive, without its percent sign. -/
structure Spelling where
  /-- The flags, in any order and number. -/
  flags : Bytes
  /-- The width; empty if there is none. -/
  width : Bytes
  /-- What stands behind the point, if there is a point. -/
  precision : Option Bytes
  /-- The length modifiers, in any order and number. -/
  modifiers : Bytes
  /-- The letter. -/
  letter : Letter
  /-- There are only flags among the flags. -/
  isFlag_flags : ∀ b ∈ flags, isFlag b
  /-- The width is a width. -/
  isWidth_width : IsWidth width
  /-- The precision is a precision. -/
  isPrecision_precision : ∀ p, precision = some p → IsPrecision p
  /-- There are only length modifiers among the length modifiers. -/
  isLengthModifier_modifiers : ∀ b ∈ modifiers, isLengthModifier b

namespace Spelling

/-- The bytes of the text. -/
def text (s : Spelling) : Bytes :=
  s.flags ++ s.width ++ pointText s.precision ++ s.modifiers ++ [s.letter.byte]

/-- The directive that a text stands for. -/
def directive (s : Spelling) : Directive :=
  ⟨({} : Flags).addAll s.flags, Amount.ofText s.width, s.precision.map Amount.ofText, s.letter.tail⟩

lemma text_append (s : Spelling) (rest : Bytes) :
    s.text ++ rest = s.flags ++ (s.width ++
      (pointText s.precision ++ (s.modifiers ++ s.letter.byte :: rest))) := by
  simp [text]

end Spelling

/-! ## The parts are kept apart by their bytes -/

/-- Whether a byte can stand in a width or a precision. -/
def isAmountByte (b : UInt8) : Bool := isDigit b || b == code '*'

/-- A byte that no flags, width or precision can start with or go on with. -/
def Closing (b : UInt8) : Prop := isFlag b = false ∧ isAmountByte b = false ∧ b ≠ code '.'

instance (b : UInt8) : Decidable (Closing b) := inferInstanceAs (Decidable (_ ∧ _))

lemma Letter.closing_byte (l : Letter) : Closing l.byte := by
  cases l with
  | percent => decide
  | conversion conv => cases conv <;> decide

lemma Letter.isLengthModifier_byte (l : Letter) : isLengthModifier l.byte = false := by
  cases l with
  | percent => decide
  | conversion conv => cases conv <;> decide

lemma Letter.ofByte_byte (l : Letter) : Tail.ofByte l.byte = l.tail := by
  cases l with
  | percent => decide
  | conversion conv => cases conv <;> decide

lemma Letter.byte_of_ofByte {b : UInt8} {l : Letter} (h : Tail.ofByte b = l.tail) :
    b = l.byte := by
  unfold Tail.ofByte at h
  split at h
  · next hb =>
    cases l with
    | percent => exact hb
    | conversion conv => exact absurd h (by simp [Letter.tail])
  · split at h
    · next conv hconv =>
      cases l with
      | percent => exact absurd h (by simp [Letter.tail])
      | conversion conv' =>
        obtain rfl : conv = conv' := by simpa [Letter.tail] using h
        simpa [Letter.byte] using List.find?_some hconv
    · cases l <;> exact absurd h (by simp [Letter.tail])

lemma closing_of_isLengthModifier {b : UInt8} (h : isLengthModifier b) : Closing b := by
  simp only [isLengthModifier, Bool.or_eq_true, decide_eq_true_eq] at h
  rcases h with (((rfl | rfl) | rfl) | rfl) | rfl <;> decide

/-- The only digit among the flags is zero. -/
lemma isFlag_of_isDigit {b : UInt8} (h : isDigit b) (h0 : b ≠ code '0') : isFlag b = false := by
  by_contra hf
  rw [Bool.not_eq_false, isFlag, decide_eq_true_eq] at hf
  simp only [List.mem_cons, List.not_mem_nil, or_false] at hf
  rcases hf with rfl | rfl | rfl | rfl | rfl
  · exact absurd h (by decide)
  · exact h0 rfl
  · exact absurd h (by decide)
  · exact absurd h (by decide)
  · exact absurd h (by decide)

lemma IsWidth.isPrecision {bs : Bytes} (h : IsWidth bs) : IsPrecision bs :=
  h.imp_right And.left

/-- A width or a precision is taken whole, and nothing behind it that could not be part of one. -/
lemma amountText_append {bs rest : Bytes} (h : IsPrecision bs) (hr : Stops isAmountByte rest) :
    amountText (bs ++ rest) = bs ∧ afterAmount (bs ++ rest) = rest := by
  -- a star ends by itself; digits end where what follows is no digit
  have hdigits : Stops isDigit rest := fun b hb => by
    have := hr b hb
    simp only [isAmountByte, Bool.or_eq_false_iff] at this
    exact this.1
  rcases h with rfl | hd
  · exact ⟨rfl, rfl⟩
  · cases hbs : bs ++ rest with
    | nil =>
      obtain ⟨rfl, rfl⟩ := List.append_eq_nil_iff.1 hbs
      exact ⟨rfl, rfl⟩
    | cons b more =>
      have hb : b ≠ code '*' := by
        rintro rfl
        cases bs with
        | nil => exact absurd (hr _ (by simpa using congrArg List.head? hbs)) (by decide)
        | cons c cs =>
          obtain ⟨rfl, -⟩ : c = code '*' ∧ _ := by simpa using hbs
          exact absurd (hd (code '*') (by simp)) (by decide)
      rw [amountText, afterAmount, if_neg hb, if_neg hb, ← hbs, List.takeWhile_append_of_pos hd,
        List.dropWhile_append_of_pos hd, hdigits.takeWhile_eq, hdigits.dropWhile_eq,
        List.append_nil]
      exact ⟨rfl, rfl⟩

section

variable {flags width modifiers rest : Bytes} {precision : Option Bytes}

lemma closing_modifiers (hm : ∀ b ∈ modifiers, isLengthModifier b)
    (hr : ∀ b ∈ rest.head?, Closing b) : ∀ b ∈ (modifiers ++ rest).head?, Closing b := by
  cases modifiers with
  | nil => exact hr
  | cons c cs =>
    intro b hb
    obtain rfl : c = b := by simpa using hb
    exact closing_of_isLengthModifier (hm c (by simp))

lemma stops_point {p : UInt8 → Bool} (hpoint : p (code '.') = false)
    (hp : ∀ b, Closing b → p b = false) (hr : ∀ b ∈ rest.head?, Closing b) :
    Stops p (pointText precision ++ rest) := by
  cases precision with
  | none => exact fun b hb => hp b (hr b hb)
  | some t => exact stops_cons hpoint

lemma IsWidth.stops_isFlag (hw : IsWidth width) (hr : Stops isFlag rest) :
    Stops isFlag (width ++ rest) := by
  rcases hw with rfl | ⟨hd, h0⟩
  · exact stops_cons (by decide)
  · cases width with
    | nil => exact hr
    | cons b bs => exact stops_cons (isFlag_of_isDigit (hd b (by simp)) (by simpa using h0))

lemma readPrecision_point (hp : ∀ t, precision = some t → IsPrecision t)
    (hr : ∀ b ∈ rest.head?, Closing b) :
    readPrecision (pointText precision ++ rest) = (precision.map Amount.ofText, rest) := by
  cases precision with
  | none =>
    cases rest with
    | nil => rfl
    | cons b more =>
      simp only [pointText, List.nil_append, readPrecision]
      rw [if_neg (hr b (by simp)).2.2]
      rfl
  | some t =>
    have ht := amountText_append (hp t rfl) fun b hb => (hr b hb).2.1
    simp only [pointText, List.cons_append, readPrecision, if_true, Amount.read_eq, ht]
    rfl

/-- A directive is read part by part, whatever it ends in that could not be taken for more of its
width or its precision; that may be the end of the format. -/
theorem Directive.read_parts (hflags : ∀ b ∈ flags, isFlag b) (hwidth : IsWidth width)
    (hprecision : ∀ t, precision = some t → IsPrecision t)
    (hmodifiers : ∀ b ∈ modifiers, isLengthModifier b) (hr : ∀ b ∈ rest.head?, Closing b) :
    Directive.read (flags ++ (width ++ (pointText precision ++ (modifiers ++ rest)))) =
      let last := Tail.read (rest.dropWhile isLengthModifier)
      (⟨({} : Flags).addAll flags, Amount.ofText width, precision.map Amount.ofText, last.1⟩,
        last.2) := by
  have hclosing := closing_modifiers hmodifiers hr
  have hpoint : Stops isFlag (pointText precision ++ (modifiers ++ rest)) :=
    stops_point (by decide) (fun _ hb => hb.1) hclosing
  have hamount : Stops isAmountByte (pointText precision ++ (modifiers ++ rest)) :=
    stops_point (by decide) (fun _ hb => hb.2.1) hclosing
  have hstops := hwidth.stops_isFlag hpoint
  have hw := amountText_append hwidth.isPrecision hamount
  rw [Directive.read]
  simp only [Flags.read_eq, List.takeWhile_append_of_pos hflags,
    List.dropWhile_append_of_pos hflags, hstops.takeWhile_eq, hstops.dropWhile_eq, Amount.read_eq,
    hw, readPrecision_point hprecision hclosing, List.dropWhile_append_of_pos hmodifiers,
    List.append_nil]

end

/-- A spelled directive is read as what it stands for, and no further. -/
theorem Spelling.read_text (s : Spelling) (rest : Bytes) :
    Directive.read (s.text ++ rest) = (s.directive, rest) := by
  have hletter : ∀ b ∈ (s.letter.byte :: rest).head?, Closing b := by
    rintro b ⟨rfl⟩
    exact s.letter.closing_byte
  rw [text_append, Directive.read_parts s.isFlag_flags s.isWidth_width s.isPrecision_precision
    s.isLengthModifier_modifiers hletter, (stops_cons s.letter.isLengthModifier_byte).dropWhile_eq,
    Tail.read, s.letter.ofByte_byte]
  rfl

/-! ## What is read was spelled -/

lemma isPrecision_amountText (bs : Bytes) : IsPrecision (amountText bs) := by
  cases bs with
  | nil => exact Or.inr (by simp [amountText])
  | cons b rest =>
    rw [amountText]
    split
    · next hb => exact Or.inl (by rw [hb])
    · exact Or.inr fun c hc => List.mem_takeWhile_imp hc

lemma isWidth_amountText {bs : Bytes} (h : Stops isFlag bs) : IsWidth (amountText bs) := by
  rcases isPrecision_amountText bs with hstar | hd
  · exact Or.inl hstar
  · refine Or.inr ⟨hd, fun h0 => ?_⟩
    -- A leading zero would have been taken as a flag.
    have hbs : bs.head? = some (code '0') := by
      rw [← amountText_append_afterAmount bs, List.head?_append, h0]
      rfl
    exact absurd (h _ hbs) (by decide)

lemma exists_pointText (bs : Bytes) : ∃ p rest, bs = pointText p ++ rest ∧
    (∀ t, p = some t → IsPrecision t) ∧ readPrecision bs = (p.map Amount.ofText, rest) := by
  cases bs with
  | nil => exact ⟨none, [], rfl, by simp, rfl⟩
  | cons b rest =>
    by_cases hb : b = code '.'
    · subst hb
      refine ⟨some (amountText rest), afterAmount rest, ?_, ?_, ?_⟩
      · rw [pointText, List.cons_append, amountText_append_afterAmount]
      · rintro t ⟨rfl⟩
        exact isPrecision_amountText rest
      · rw [readPrecision, if_pos rfl, Amount.read_eq]
        rfl
    · exact ⟨none, b :: rest, rfl, by simp, by rw [readPrecision, if_neg hb]; rfl⟩

/-- Whatever is read as a complete directive was spelled so. -/
theorem exists_spelling {bs : Bytes} {l : Letter} (h : (Directive.read bs).1.tail = l.tail) :
    ∃ s : Spelling, bs = s.text ++ (Directive.read bs).2 ∧ s.directive = (Directive.read bs).1 := by
  -- the spelling is what each part has taken, up to the letter
  obtain ⟨p, r₃, hr₂, hp, hreadp⟩ := exists_pointText (afterAmount (bs.dropWhile isFlag))
  unfold Directive.read at h ⊢
  simp only [Flags.read_eq, Amount.read_eq, hreadp] at h ⊢
  cases hr₄ : r₃.dropWhile isLengthModifier with
  | nil =>
    rw [hr₄] at h
    cases l <;> exact absurd h (by simp [Tail.read, Letter.tail])
  | cons b rest =>
    rw [hr₄, Tail.read] at h
    obtain rfl := Letter.byte_of_ofByte h
    refine ⟨⟨bs.takeWhile isFlag, amountText (bs.dropWhile isFlag), p,
      r₃.takeWhile isLengthModifier, l, fun _ hb => List.mem_takeWhile_imp hb,
      isWidth_amountText (stops_dropWhile isFlag bs), hp,
      fun _ hb => List.mem_takeWhile_imp hb⟩, ?_, ?_⟩
    · rw [Spelling.text_append]
      simp only [Tail.read]
      rw [← hr₄, List.takeWhile_append_dropWhile, ← hr₂, amountText_append_afterAmount,
        List.takeWhile_append_dropWhile]
    · simp only [Spelling.directive, Tail.read, Letter.ofByte_byte]

/-! ## Whole formats -/

/-- What a directive asks of an argument. -/
inductive Demand
  /-- The value of a star. -/
  | star
  /-- A number or a character. -/
  | number
  /-- A run of bytes. -/
  | text
  /-- An address. -/
  | address
  deriving DecidableEq, Repr

/-- Whether an argument is of a kind that is asked for. -/
def Demand.MetBy : Demand → Argument → Prop
  | star, .int _ | star, .uint _ => True
  | number, .int _ | number, .uint _ | number, .char _ => True
  | text, .bytes _ => True
  | address, .pointer _ | address, .uint _ => True
  | _, _ => False

/-- What a conversion asks for. -/
def Conversion.demand : Conversion → Demand
  | decimal | integer | unsigned | lowerHex | upperHex | octal | character => .number
  | string => .text
  | pointer => .address

/-- What a letter asks for; a second percent sign asks for nothing. -/
def Letter.demands : Letter → List Demand
  | percent => []
  | conversion conv => [conv.demand]

/-- What a width or a precision asks for: one argument if it is a star. -/
def starDemands (bs : Bytes) : List Demand := if bs = [code '*'] then [.star] else []

/-- What a spelled directive asks for, in order. -/
def Spelling.demands (s : Spelling) : List Demand :=
  starDemands s.width ++ s.precision.elim [] starDemands ++ s.letter.demands

/-- The formats and the arguments that they ask for: literal bytes, which are not percent signs, and
spelled directives behind percent signs, in any order and number. -/
inductive Template : Bytes → List Demand → Prop
  /-- The empty format asks for nothing. -/
  | nil : Template [] []
  /-- A literal byte asks for nothing. -/
  | literal {b : UInt8} {fmt : Bytes} {ds : List Demand} (h : b ≠ code '%') (t : Template fmt ds) :
      Template (b :: fmt) ds
  /-- What a directive asks for comes first. -/
  | directive {fmt : Bytes} {ds : List Demand} (s : Spelling) (t : Template fmt ds) :
      Template (code '%' :: (s.text ++ fmt)) (s.demands ++ ds)

/-! ## The grammar and the segments of a format -/

/-- Whether a directive ends in a letter. -/
def Tail.IsComplete (t : Tail) : Prop := ∃ l : Letter, t = l.tail

/-- Whether a segment is a literal or a complete directive. -/
def Segment.IsComplete : Segment → Prop
  | .literal _ => True
  | .directive _ d => d.tail.IsComplete

/-- What a width or a precision asks for, once it is read. -/
def Amount.demands : Amount → List Demand
  | .star => [.star]
  | .number _ => []

/-- What the ending of a directive asks for. -/
def Tail.demands : Tail → List Demand
  | .conversion conv => [conv.demand]
  | .missing | .percent | .unknown _ => []

/-- What a directive asks for, once it is read. -/
def Directive.demands (d : Directive) : List Demand :=
  d.width.demands ++ d.precision.elim [] Amount.demands ++ d.tail.demands

/-- What a segment asks for. -/
def Segment.demands : Segment → List Demand
  | .literal _ => []
  | .directive _ d => d.demands

lemma Amount.demands_ofText (bs : Bytes) : (Amount.ofText bs).demands = starDemands bs := by
  unfold Amount.ofText starDemands
  split <;> rfl

lemma Letter.demands_tail (l : Letter) : l.tail.demands = l.demands := by
  cases l <;> rfl

lemma Spelling.demands_directive (s : Spelling) : s.directive.demands = s.demands := by
  cases hp : s.precision <;>
    simp [Directive.demands, Spelling.directive, Spelling.demands, Amount.demands_ofText,
      Letter.demands_tail, hp]

lemma segments_literal (offset : Nat) {b : UInt8} (h : b ≠ code '%') (rest : Bytes) :
    segments offset (b :: rest) = .literal b :: segments (offset + 1) rest := by
  rw [segments, if_neg h]

lemma segments_percent (offset : Nat) (rest : Bytes) :
    segments offset (code '%' :: rest) = .directive offset (Directive.read rest).1 ::
      segments (offset + 1 + (rest.length - (Directive.read rest).2.length))
        (Directive.read rest).2 := by
  rw [segments, if_pos rfl]

/-- A format is one of the grammar exactly if all its directives are complete, and then it asks for
what its segments ask for. -/
theorem template_iff_segments (offset : Nat) (fmt : Bytes) (ds : List Demand) :
    Template fmt ds ↔ (∀ seg ∈ segments offset fmt, seg.IsComplete) ∧
      (segments offset fmt).flatMap Segment.demands = ds := by
  constructor
  · intro h
    induction h generalizing offset with
    | nil => simp [segments]
    | literal hb t ih =>
      obtain ⟨hc, hd⟩ := ih (offset + 1)
      rw [segments_literal offset hb]
      exact ⟨List.forall_mem_cons.2 ⟨trivial, hc⟩, hd⟩
    | @directive fmt ds s t ih =>
      rw [segments_percent, s.read_text fmt]
      obtain ⟨hc, hd⟩ := ih (offset + 1 + ((s.text ++ fmt).length - fmt.length))
      refine ⟨List.forall_mem_cons.2 ⟨⟨s.letter, rfl⟩, hc⟩, ?_⟩
      rw [List.flatMap_cons, hd, Segment.demands, s.demands_directive]
  · rintro ⟨hc, rfl⟩
    fun_induction segments offset fmt with
    | case1 => exact .nil
    | case2 offset rest r ih =>
      rw [List.forall_mem_cons] at hc
      obtain ⟨l, hl⟩ := hc.1
      obtain ⟨s, hs, hd⟩ := exists_spelling hl
      have ht := Template.directive s (ih hc.2)
      rw [show s.text ++ r.2 = rest from hs.symm] at ht
      rwa [List.flatMap_cons, Segment.demands, ← hd, s.demands_directive]
    | case3 offset b rest hb ih =>
      rw [List.forall_mem_cons] at hc
      exact .literal hb (ih hc.2)

end RuntimeSupport.Format

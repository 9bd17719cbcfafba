import RuntimeSupport.Proofs.Format.Exactness
import RuntimeSupport.Proofs.Format.Parts

/-!
# Text, characters and addresses are exact

`Form.Shows` says what stands in the field of a run of bytes, a character or an address, and
`Form.pad` how it is brought to its width: with spaces, on the side that the flags say.  Only a run
of bytes depends on anything else in the form, which is its precision.

A width or a precision that is too long for a word is cut when it is read.  A width that is cut fits
no buffer (`Layout.Saturates.pad_iff`), and a precision that is cut still keeps all bytes of a run
that fits one (`Layout.Saturates.cut`).

The main statement is `format_writes_text`.
-/

namespace RuntimeSupport

namespace Format

open Ascii

variable {form : Form} {conv : Conversion} {l : Layout} {a : Argument} {body : Bytes}

/-! ## What stands in a field -/

/-- The conversions that write text: a character, a run of bytes, or an address. -/
def Conversion.texts : List Conversion := [.character, .string, .pointer]

/-- The address that an argument is, if it is one. -/
def Argument.location? : Argument → Option Nat
  | .pointer v => some v.toNat
  | .uint v => some v.toNat
  | .int _ | .char _ | .bytes _ => none

/-- What stands in the field of an argument. -/
inductive Form.Shows (form : Form) : Conversion → Argument → Bytes → Prop
  /-- The first bytes of a run, as many as the precision allows; all of them if there is none. -/
  | string {bs body : Bytes} (hstart : body <+: bs)
      (hlength : body.length = form.precision.elim bs.length fun p => min p bs.length) :
      form.Shows .string (.bytes bs) body
  /-- The low 8 bits of an integer. -/
  | character {a : Argument} {n : Int} {b : UInt8} (hn : a.number? = some n)
      (hb : (b.toNat : Int) = n % 2 ^ 8) : form.Shows .character a [b]
  /-- The radix mark and as many hexadecimal digits as the address needs; zero needs one. -/
  | pointer {a : Argument} {n : Nat} {ds : List Nat} (hn : a.location? = some n)
      (hlt : ∀ d ∈ ds, d < 16) (hvalue : Numeral.value .hexadecimal ds = n)
      (hlength : ds.length = max (Nat.digits 16 n).length 1) :
      form.Shows .pointer a (bytes "0x" ++ ds.map fun d => (bytes "0123456789abcdef").getD d 0)

/-- What stands in a field, brought to the width with spaces: behind it if the form is justified to
the left, and before it otherwise. -/
def Form.pad (form : Form) (body : Bytes) : Bytes :=
  let spaces := List.replicate (form.width - body.length) (code ' ')
  if form.flags.left then body ++ spaces else spaces ++ body

lemma Form.length_pad (form : Form) (body : Bytes) :
    (form.pad body).length = max form.width body.length := by
  unfold Form.pad
  simp only
  split
  · rw [List.length_append, List.length_replicate]
    omega
  · rw [List.length_append, List.length_replicate]
    omega

/-- A run of bytes, cut to the precision. -/
def Form.cut (form : Form) (bs : Bytes) : Bytes := form.precision.elim bs fun p => bs.take p

lemma Form.shows_cut (form : Form) (bs : Bytes) : form.Shows .string (.bytes bs) (form.cut bs) := by
  unfold Form.cut
  cases hp : form.precision with
  | none => exact .string List.prefix_rfl (by rw [hp]; rfl)
  | some p => exact .string (List.take_prefix p bs) (by rw [hp]; exact List.length_take)

/-! ## The fields of text -/

/-- A field without zeros is filled as text. -/
lemma Field.bytes_eq_pad {f : Field} (hzeros : f.zeros = 0) (hwidth : f.width = l.width)
    (hfill : f.fill = l.textFill) : f.bytes = l.toForm.pad (f.lead ++ f.body) := by
  have hdigits : f.digits = f.body := by
    rw [Field.digits, hzeros]
    rfl
  have hpadding : f.padding = l.toForm.width - (f.lead ++ f.body).length := by
    rw [Field.padding, Field.contentLength, hwidth, hzeros, Nat.add_zero, List.length_append]
    rfl
  rw [Field.bytes_eq, hdigits, hfill, Layout.textFill, Form.pad, ← hpadding, Layout.toForm_flags]
  cases l.flags.left
  · rfl
  · rfl

lemma Argument.map_octet? (a : Argument) :
    a.octet?.map (fun b => (b.toNat : Int)) = a.number?.map (· % 2 ^ 8) := by
  cases a with
  | int v =>
    -- the low 8 bits of the word are those of the integer
    have hword := (Argument.int v).map_unsigned?
    obtain hword : (v.toUInt64.toNat : Int) = v.toInt % 2 ^ 64 := Option.some.inj hword
    refine congrArg some ?_
    show ((v.toUInt64.toUInt8.toNat : Nat) : Int) = v.toInt % 2 ^ 8
    rw [UInt64.toNat_toUInt8]
    omega
  | uint v =>
    refine congrArg some ?_
    show ((v.toUInt8.toNat : Nat) : Int) = (v.toNat : Int) % 2 ^ 8
    rw [UInt64.toNat_toUInt8]
    omega
  | char c =>
    have hlt := c.toNat_lt
    refine congrArg some ?_
    show (c.toNat : Int) = (c.toNat : Int) % 2 ^ 8
    omega
  | bytes bs => rfl
  | pointer v => rfl

lemma Argument.map_address? (a : Argument) : a.address?.map UInt64.toNat = a.location? := by
  cases a <;> rfl

/-- An address is written with the digits that it needs, as a number without precision is. -/
lemma ascii_hexadecimal (n : Nat) :
    Numeral.ascii .hexadecimal false n =
      Conversion.pointer.spell (Numeral.padded .hexadecimal 1 n) := by
  let l : Layout := ⟨{}, 0, none⟩
  have hascii : l.digits .hexadecimal false n = Numeral.ascii .hexadecimal false n :=
    if_neg fun h => by cases h.2
  exact hascii.symm.trans (l.digits_number_eq_spell .pointer [] n)

lemma Form.shows_pointer (form : Form) {n : Nat} (hn : a.location? = some n) :
    form.Shows .pointer a (bytes "0x" ++ Numeral.ascii .hexadecimal false n) := by
  rw [ascii_hexadecimal]
  exact .pointer hn (Conversion.pointer.lt_of_mem_padded 1 n) (Numeral.value_padded _ 1 n)
    (Numeral.length_padded _ 1 n)

namespace Layout.Saturates

/-- A precision that is cut keeps as many bytes as the one that is asked for, unless a buffer holds
neither. -/
lemma cut (h : l.Saturates form) (bs : Bytes) : l.toForm.cut bs = form.cut bs ∨
    maxLength < (l.toForm.cut bs).length ∧ maxLength < (form.cut bs).length := by
  have hlargest : maxLength < Word.largest.toNat := by decide
  have hprecision : l.toForm.precision = form.precision.map fun p => min p Word.largest.toNat :=
    h.precision
  unfold Form.cut
  rw [hprecision]
  cases form.precision with
  | none => exact .inl rfl
  | some p =>
    show bs.take (min p Word.largest.toNat) = bs.take p ∨
      maxLength < (bs.take (min p Word.largest.toNat)).length ∧ maxLength < (bs.take p).length
    by_cases hshort : bs.length ≤ Word.largest.toNat ∨ p ≤ Word.largest.toNat
    · refine .inl ?_
      rw [List.take_eq_take_iff]
      omega
    · simp only [List.length_take]
      omega

/-- A width that is cut fits no buffer, so the form that is asked for and the one it comes to fill
the same text alike. -/
lemma pad_iff (h : l.Saturates form) {body body' : Bytes}
    (hbody : body = body' ∨ maxLength < body.length ∧ maxLength < body'.length) (out : Bytes) :
    out = l.toForm.pad body ∧ out.length ≤ maxLength ↔
      out = form.pad body' ∧ out.length ≤ maxLength := by
  have hlargest : maxLength < Word.largest.toNat := by decide
  have hwidth : l.toForm.width = min form.width Word.largest.toNat := h.width
  by_cases hlong : form.width ≤ maxLength ∧ body = body'
  · obtain ⟨hnarrow, rfl⟩ := hlong
    have hsame : l.toForm.width = form.width := by omega
    have hpad : l.toForm.pad body = form.pad body := by
      rw [Form.pad, Form.pad, hsame, Layout.toForm_flags, h.flags]
    rw [hpad]
  · have hlengths :
        maxLength < (l.toForm.pad body).length ∧ maxLength < (form.pad body').length := by
      rw [Form.length_pad, Form.length_pad, hwidth]
      rcases hbody with rfl | hbody
      · have hwide : ¬form.width ≤ maxLength := fun hle => hlong ⟨hle, rfl⟩
        omega
      · omega
    constructor
    · rintro ⟨rfl, hlength⟩
      omega
    · rintro ⟨rfl, hlength⟩
      omega

end Layout.Saturates

/-- The field of a conversion that writes text holds what the form shows, filled as text. -/
lemma Conversion.exists_body {f : Field} (hconv : conv ∈ Conversion.texts) (hl : l.Saturates form)
    (hf : conv.field? l a = some f) : ∃ body, form.Shows conv a body ∧
      ∀ out, out = f.bytes ∧ out.length ≤ maxLength ↔
        out = form.pad body ∧ out.length ≤ maxLength := by
  cases conv with
  | character =>
    obtain ⟨b, hb, rfl⟩ := Option.map_eq_some_iff.1 hf
    have hoctet := a.map_octet?
    rw [hb, Option.map_some] at hoctet
    obtain ⟨n, hn, hmod⟩ := Option.map_eq_some_iff.1 hoctet.symm
    refine ⟨[b], .character hn hmod.symm, fun out => ?_⟩
    rw [Field.bytes_eq_pad (l := l) rfl rfl rfl]
    exact hl.pad_iff (.inl rfl) out
  | string =>
    obtain ⟨bs, hbs, rfl⟩ := Option.map_eq_some_iff.1 hf
    obtain rfl : a = .bytes bs := by
      cases a with
      | bytes bs' => exact congrArg Argument.bytes (Option.some.inj hbs)
      | int _ | uint _ | char _ | pointer _ => cases hbs
    have hcut : (l.string bs).body = l.toForm.cut bs := by
      rw [Layout.string, Form.cut, Layout.toForm]
      cases l.precision <;> rfl
    refine ⟨form.cut bs, form.shows_cut bs, fun out => ?_⟩
    rw [Field.bytes_eq_pad (l := l) rfl rfl rfl, hcut]
    exact hl.pad_iff (hl.cut bs) out
  | pointer =>
    obtain ⟨v, hv, rfl⟩ := Option.map_eq_some_iff.1 hf
    have hlocation : a.location? = some v.toNat := by
      rw [← a.map_address?, hv, Option.map_some]
    refine ⟨_, form.shows_pointer hlocation, fun out => ?_⟩
    rw [Field.bytes_eq_pad (l := l) rfl rfl rfl]
    exact hl.pad_iff (.inl rfl) out
  | decimal | integer | unsigned | lowerHex | upperHex | octal => exact absurd hconv (by decide)

/-- What a format of one directive writes for text. -/
lemma Spelling.exists_text {s : Spelling} {stars : List Argument}
    (hletter : s.letter = .conversion conv) (hconv : conv ∈ Conversion.texts)
    (hform : s.Asks stars form) (ha : conv.demand.MetBy a) :
    ∃ body, form.Shows conv a body ∧ ∀ out, format (code '%' :: s.text) (stars ++ [a]) = .ok out ↔
      out = form.pad body ∧ out.length ≤ maxLength := by
  obtain ⟨l, hlayout, hl⟩ := hform.exists_layout 0 [a]
  rw [Nat.zero_add] at hlayout
  obtain ⟨f, hf⟩ : ∃ f, conv.field? l a = some f :=
    Option.isSome_iff_exists.1 ((conv.isSome_field? l a).2 ha)
  obtain ⟨body, hshows, hbody⟩ := Conversion.exists_body hconv hl hf
  refine ⟨body, hshows, fun out => ?_⟩
  rw [s.format_text_eq_ok_iff hletter hlayout, ← hbody]
  simp only [hf, Option.some.injEq, exists_eq_left']

end Format

open Format

/-- Text, characters and addresses are exact.  Whatever flags, width, precision and length modifiers
a directive has, spelled out or taken from arguments, and whatever stands before and behind it in a
format, it writes what its form shows of the argument, as it is, and spaces up to the width. -/
theorem format_writes_text {s : Spelling} {conv : Conversion} {stars : List Argument} {form : Form}
    {a : Argument} (hletter : s.letter = .conversion conv) (hconv : conv ∈ Conversion.texts)
    (hform : s.Asks stars form) (ha : conv.demand.MetBy a) :
    ∃ body, form.Shows conv a body ∧ (form.pad body).length = max form.width body.length ∧
      ∀ f₁ a₁ o₁ f₂ a₂ o₂, format f₁ a₁ = .ok o₁ → format f₂ a₂ = .ok o₂ →
        ∀ out,
          format (f₁ ++ Ascii.code '%' :: (s.text ++ f₂)) (a₁ ++ (stars ++ a :: a₂)) = .ok out ↔
          out = o₁ ++ (form.pad body ++ o₂) ∧ out.length ≤ maxLength := by
  obtain ⟨body, hshows, hformat⟩ := Spelling.exists_text hletter hconv hform ha
  refine ⟨body, hshows, form.length_pad body, ?_⟩
  intro f₁ a₁ o₁ f₂ a₂ o₂ h₁ h₂ out
  have hargs : stars ++ a :: a₂ = (stars ++ [a]) ++ a₂ := by simp
  rw [hargs, format_between_of_ok h₁ s h₂]
  simp only [hformat]
  constructor
  · rintro ⟨o, ⟨rfl, -⟩, hout, hlength⟩
    exact ⟨hout, hlength⟩
  · rintro ⟨rfl, hlength⟩
    simp only [List.length_append] at hlength
    exact ⟨_, ⟨rfl, by omega⟩, rfl, by simp only [List.length_append]; omega⟩

/-- A negative width that an argument gives, a precision, and the flag for zeros, which changes
nothing: two of three bytes and three spaces behind them. -/
theorem format_writes_text_trailing :
    let form : Form := ⟨⟨true, true, false, false, true⟩, 5, some 2⟩
    let run : Bytes := [0x61, 0xFF, 0x63]
    let out : Bytes := [0x3C, 0x61, 0xFF, 0x20, 0x20, 0x20, 0x3E]
    format (Ascii.bytes "<%0#*.2ls>") [.int (-5), .bytes run] = .ok out ∧
      ∃ body, form.Shows .string (.bytes run) body ∧
        out = Ascii.bytes "<" ++ (form.pad body ++ Ascii.bytes ">") := by
  intro form run out
  let s : Spelling := ⟨Ascii.bytes "0#", Ascii.bytes "*", some (Ascii.bytes "2"), Ascii.bytes "l",
    .conversion .string, by decide +kernel, .inl rfl,
    by rintro _ ⟨⟩; exact .inr (by decide +kernel), by decide +kernel⟩
  have hwidth : Stands s.width [.int (-5)] (-5 : Int64).toInt := .star rfl
  have hprecision : Stands (Ascii.bytes "2") [] 2 := .digits (by decide +kernel)
  have hform : s.Asks [.int (-5)] form := .precise hwidth rfl hprecision
  have hbefore : format (Ascii.bytes "<") [] = .ok (Ascii.bytes "<") := by decide +kernel
  have hbehind : format (Ascii.bytes ">") [] = .ok (Ascii.bytes ">") := by decide +kernel
  have hformat : format (Ascii.bytes "<%0#*.2ls>") [.int (-5), .bytes run] = .ok out := by
    decide +kernel
  have hletter : s.letter = .conversion .string := rfl
  have haccepted : Conversion.string.demand.MetBy (.bytes run) := trivial
  obtain ⟨body, hshows, -, hiff⟩ := format_writes_text hletter (by decide) hform haccepted
  exact ⟨hformat, body, hshows, ((hiff _ _ _ _ _ _ hbefore hbehind out).1 hformat).1⟩

end RuntimeSupport

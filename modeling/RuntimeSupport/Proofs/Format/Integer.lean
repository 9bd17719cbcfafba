import Mathlib.Data.List.Induction
import Mathlib.Data.Nat.Digits.Defs
import RuntimeSupport.Proofs.Format.Form

/-!
# How integers are written

`Form.Writes` says what a conversion writes for an integer: which digits, which lead in front of
them and what fills the rest of the field.  It says so by exact numbers and does not know of words,
fields or buffers.  Every argument of an integer conversion comes to an integer
(`Conversion.integer?`), and whatever is written for it can be read back (`Conversion.readBack`),
with no regard to the form.

The main statements are `Form.Writes.readBack_eq` and `Form.writes_write`, which gives what is
written as bytes.
-/

namespace RuntimeSupport

namespace Numeral

variable {r : Radix} {n : Nat}

/-! ## Digits and their value -/

lemma value_eq_ofDigits (r : Radix) (ds : List Nat) :
    value r ds = Nat.ofDigits r.base ds.reverse := by
  -- the last digit is the least significant one
  induction ds using List.reverseRecOn with
  | nil => rfl
  | append_singleton ds d ih =>
    rw [value_append_singleton, ih, List.reverse_append, List.reverse_singleton,
      List.singleton_append, Nat.ofDigits_cons, Nat.add_comm, Nat.mul_comm]

lemma digits_eq (h : n ≠ 0) : digits r n = (Nat.digits r.base n).reverse := by
  have hbase : 1 < r.base := r.two_le_base
  fun_induction digits r n with
  | case1 n hn => rw [Nat.digits_of_lt _ _ h hn, List.reverse_singleton]
  | case2 n hn ih =>
    have hquotient : n / r.base ≠ 0 := by
      intro hzero
      have hsmall := (Nat.div_eq_zero_iff).1 hzero
      omega
    rw [ih hquotient, Nat.digits_def' hbase (Nat.pos_of_ne_zero h), List.reverse_cons]

lemma value_append_of_zeros {zs : List Nat} (h : ∀ z ∈ zs, z = 0) (ds : List Nat) :
    value r (zs ++ ds) = value r ds := by
  induction zs with
  | nil => rfl
  | cons z zs ih =>
    rw [List.forall_mem_cons] at h
    obtain ⟨rfl, hzs⟩ := h
    rw [List.cons_append, ← ih hzs]
    simp only [value, List.foldl_cons, Nat.zero_mul, Nat.add_zero]

/-- The digits of a number, after zeros if there are fewer than `k`. -/
def padded (r : Radix) (k n : Nat) : List Nat :=
  List.replicate (k - (Nat.digits r.base n).length) 0 ++ (Nat.digits r.base n).reverse

lemma value_padded (r : Radix) (k n : Nat) : value r (padded r k n) = n := by
  rw [padded, value_append_of_zeros fun _ => List.eq_of_mem_replicate, value_eq_ofDigits,
    List.reverse_reverse, Nat.ofDigits_digits]

lemma length_padded (r : Radix) (k n : Nat) :
    (padded r k n).length = max (Nat.digits r.base n).length k := by
  rw [padded, List.length_append, List.length_replicate, List.length_reverse]
  omega

lemma lt_base_of_mem_padded {k d : Nat} (h : d ∈ padded r k n) : d < r.base := by
  have hbase := r.two_le_base
  rw [padded, List.mem_append, List.mem_reverse] at h
  rcases h with h | h
  · rw [List.eq_of_mem_replicate h]
    omega
  · exact Nat.digits_lt_base (by omega) h

end Numeral

namespace Format

open Ascii

/-! ## What is written -/

/-- The conversions that write integers. -/
def Conversion.integers : List Conversion :=
  [.decimal, .integer, .unsigned, .lowerHex, .upperHex, .octal]

/-- The integer that an argument is, if it is one. -/
def Argument.number? : Argument → Option Int
  | .int v => some v.toInt
  | .uint v => some v.toNat
  | .char c => some c.toNat
  | .bytes _ | .pointer _ => none

/-- The integer that a conversion writes for an argument: with a sign, in two's complement of 64
bits, or without, modulo 2^64. -/
def Conversion.integer? (conv : Conversion) (a : Argument) : Option Int :=
  match conv with
  | decimal | integer => a.number?.map (Int.bmod · (2 ^ 64))
  | unsigned | lowerHex | upperHex | octal => a.number?.map (· % 2 ^ 64)
  | character | string | pointer => none

/-- The radix of a conversion. -/
def Conversion.radix : Conversion → Numeral.Radix
  | octal => .octal
  | lowerHex | upperHex | pointer => .hexadecimal
  | decimal | integer | unsigned | character | string => .decimal

/-- The bytes that a conversion writes for digits. -/
def Conversion.glyphs : Conversion → Bytes
  | upperHex => bytes "0123456789ABCDEF"
  | _ => bytes "0123456789abcdef"

/-- Digits as a conversion writes them. -/
def Conversion.spell (conv : Conversion) (ds : List Nat) : Bytes :=
  ds.map fun d => conv.glyphs.getD d 0

namespace Form

/-- What stands in front of the digits: a sign, or a radix mark. -/
def lead (form : Form) (conv : Conversion) (v : Int) : Bytes :=
  match conv with
  | .decimal | .integer =>
    if v < 0 then bytes "-"
    else if form.flags.plus then bytes "+"
    else if form.flags.space then bytes " "
    else []
  | .lowerHex => if form.flags.alternate ∧ v ≠ 0 then bytes "0x" else []
  | .upperHex => if form.flags.alternate ∧ v ≠ 0 then bytes "0X" else []
  | .unsigned | .octal | .character | .string | .pointer => []

/-- The digits with the radix mark of an octal number, which is a zero unless there is one already.
-/
def mark (form : Form) (conv : Conversion) (ds : List Nat) : List Nat :=
  if conv = .octal ∧ form.flags.alternate ∧ ds.head? ≠ some 0 then 0 :: ds else ds

/-- How a lead and digits are filled to a field. -/
inductive Fills (form : Form) (lead digits : Bytes) : Bytes → Prop
  /-- With spaces after everything else. -/
  | trailing (n : Nat) (hleft : form.flags.left) :
      form.Fills lead digits (lead ++ digits ++ List.replicate n (code ' '))
  /-- With zeros between the lead and the digits. -/
  | zeros (n : Nat) (hleft : ¬form.flags.left) (hzero : form.flags.zero ∧ form.precision = none) :
      form.Fills lead digits (lead ++ List.replicate n (code '0') ++ digits)
  /-- With spaces before everything else. -/
  | leading (n : Nat) (hleft : ¬form.flags.left)
      (hzero : ¬(form.flags.zero ∧ form.precision = none)) :
      form.Fills lead digits (List.replicate n (code ' ') ++ (lead ++ digits))

/-- A conversion writes an integer in a form with the given digits, as the given bytes.  There are
as many digits as the number needs or as the precision asks for, which is one if there is none; zero
needs no digit. -/
structure Writes (form : Form) (conv : Conversion) (v : Int) (ds : List Nat) (out : Bytes) :
    Prop where
  lt_base : ∀ d ∈ ds, d < conv.radix.base
  value_eq : Numeral.value conv.radix ds = v.natAbs
  length_digits :
    ds.length = max (Nat.digits conv.radix.base v.natAbs).length (form.precision.getD 1)
  fills : form.Fills (form.lead conv v) (conv.spell (form.mark conv ds)) out
  length_eq : out.length = max form.width ((form.lead conv v).length + (form.mark conv ds).length)

end Form

/-- The value of a digit, in either case of letters. -/
def digit? (b : UInt8) : Option Nat :=
  ((bytes "0123456789abcdef").idxOf? b).or ((bytes "0123456789ABCDEF").idxOf? b)

/-- The integer that has been written, whatever the form: the number that the digits stand for, with
a minus sign if there is one.  Everything else is passed over. -/
def Conversion.readBack (conv : Conversion) (out : Bytes) : Int :=
  let n := Numeral.value conv.radix (out.filterMap digit?)
  if code '-' ∈ out then -n else n

/-! ## What is written can be read back -/

variable {form : Form} {conv : Conversion} {v : Int} {ds : List Nat} {out : Bytes}

lemma Conversion.base_le (conv : Conversion) : conv.radix.base ≤ 16 := by
  cases conv <;> decide

lemma Conversion.digit?_glyph (conv : Conversion) {d : Nat} (h : d < 16) :
    digit? (conv.glyphs.getD d 0) = some d := by
  have hlower : ∀ d < 16, digit? ((bytes "0123456789abcdef").getD d 0) = some d := by decide +kernel
  have hupper : ∀ d < 16, digit? ((bytes "0123456789ABCDEF").getD d 0) = some d := by decide +kernel
  cases conv with
  | upperHex => exact hupper d h
  | _ => exact hlower d h

lemma Conversion.filterMap_spell (conv : Conversion) (h : ∀ d ∈ ds, d < 16) :
    (conv.spell ds).filterMap digit? = ds := by
  induction ds with
  | nil => rfl
  | cons d ds ih =>
    rw [List.forall_mem_cons] at h
    rw [spell, List.map_cons, List.filterMap_cons_some (conv.digit?_glyph h.1)]
    exact congrArg (d :: ·) (ih h.2)

lemma Conversion.minus_not_mem_spell (conv : Conversion) (h : ∀ d ∈ ds, d < 16) :
    code '-' ∉ conv.spell ds := by
  intro hmem
  obtain ⟨d, hd, hglyph⟩ := List.mem_map.1 hmem
  have hdigit := conv.digit?_glyph (h d hd)
  rw [hglyph, show digit? (code '-') = none by decide +kernel] at hdigit
  cases hdigit

lemma Form.forall_mem_mark {P : Nat → Prop} (hzero : P 0) (h : ∀ d ∈ ds, P d) :
    ∀ d ∈ form.mark conv ds, P d := by
  unfold Form.mark
  split
  · exact List.forall_mem_cons.2 ⟨hzero, h⟩
  · exact h

lemma Form.value_mark (r : Numeral.Radix) (form : Form) (conv : Conversion) (ds : List Nat) :
    Numeral.value r (form.mark conv ds) = Numeral.value r ds := by
  unfold Form.mark
  split
  · have hzeros : ∀ z ∈ [0], z = 0 := by simp
    exact Numeral.value_append_of_zeros hzeros ds
  · rfl

lemma Form.Fills.exists_zeros {lead digits : Bytes} (h : form.Fills lead digits out)
    (hlead : ∀ d ∈ lead.filterMap digit?, d = 0) :
    ∃ zs, (∀ z ∈ zs, z = 0) ∧ out.filterMap digit? = zs ++ digits.filterMap digit? := by
  have hspace : digit? (code ' ') = none := by decide +kernel
  have hzero : digit? (code '0') = some 0 := by decide +kernel
  cases h with
  | trailing n _ =>
    refine ⟨_, hlead, ?_⟩
    rw [List.filterMap_append, List.filterMap_append, List.filterMap_replicate_of_none hspace,
      List.append_nil]
  | zeros n _ _ =>
    refine ⟨lead.filterMap digit? ++ List.replicate n 0, ?_, ?_⟩
    · intro z hz
      rcases List.mem_append.1 hz with hz | hz
      · exact hlead z hz
      · exact List.eq_of_mem_replicate hz
    · rw [List.filterMap_append, List.filterMap_append, List.filterMap_replicate_of_some hzero]
  | leading n _ _ =>
    refine ⟨_, hlead, ?_⟩
    rw [List.filterMap_append, List.filterMap_append, List.filterMap_replicate_of_none hspace,
      List.nil_append]

lemma Form.Fills.mem_iff {lead digits : Bytes} {b : UInt8} (h : form.Fills lead digits out)
    (hspace : b ≠ code ' ') (hzero : b ≠ code '0') : b ∈ out ↔ b ∈ lead ∨ b ∈ digits := by
  cases h <;> simp [List.mem_replicate, hspace, hzero]

lemma Form.zero_of_mem_lead : ∀ d ∈ (form.lead conv v).filterMap digit?, d = 0 := by
  unfold Form.lead
  cases conv with
  | decimal | integer =>
    simp only
    split_ifs
    all_goals decide +kernel
  | lowerHex | upperHex =>
    simp only
    split_ifs
    all_goals decide +kernel
  | unsigned | octal | character | string | pointer => simp

/-- Only conversions with a sign write one. -/
lemma Form.minus_mem_lead_iff (h : v < 0 → conv = .decimal ∨ conv = .integer) :
    code '-' ∈ form.lead conv v ↔ v < 0 := by
  unfold Form.lead
  cases conv with
  | decimal | integer =>
    simp only
    split_ifs with hv
    · exact iff_of_true (by decide) hv
    all_goals exact iff_of_false (by decide) hv
  | lowerHex | upperHex =>
    have hv : ¬v < 0 := fun hv => by simpa using h hv
    simp only
    split_ifs
    all_goals exact iff_of_false (by decide) hv
  | unsigned | octal | character | string | pointer =>
    have hv : ¬v < 0 := fun hv => by simpa using h hv
    exact iff_of_false List.not_mem_nil hv

/-- Whatever is written can be read back, with no regard to the form. -/
theorem Form.Writes.readBack_eq (h : form.Writes conv v ds out)
    (hsign : v < 0 → conv = .decimal ∨ conv = .integer) : conv.readBack out = v := by
  have hds : ∀ d ∈ form.mark conv ds, d < 16 := by
    have hbase := conv.base_le
    refine forall_mem_mark (by decide) fun d hd => ?_
    exact Nat.lt_of_lt_of_le (h.lt_base d hd) hbase
  obtain ⟨zs, hzs, hdigits⟩ := h.fills.exists_zeros zero_of_mem_lead
  have hvalue : Numeral.value conv.radix (out.filterMap digit?) = v.natAbs := by
    rw [hdigits, conv.filterMap_spell hds, Numeral.value_append_of_zeros hzs, value_mark,
      h.value_eq]
  have hminus : code '-' ∈ out ↔ v < 0 := by
    rw [h.fills.mem_iff (by decide) (by decide), or_iff_left (conv.minus_not_mem_spell hds),
      minus_mem_lead_iff hsign]
  rw [Conversion.readBack, hvalue]
  simp only [hminus]
  split
  · omega
  · omega

/-! ## Every form and integer are written -/

namespace Form

/-- What a conversion writes for an integer. -/
def write (form : Form) (conv : Conversion) (v : Int) : Bytes :=
  let lead := form.lead conv v
  let ds := Numeral.padded conv.radix (form.precision.getD 1) v.natAbs
  let digits := conv.spell (form.mark conv ds)
  let n := form.width - (lead.length + digits.length)
  if form.flags.left then lead ++ digits ++ List.replicate n (code ' ')
  else if form.flags.zero ∧ form.precision = none then lead ++ List.replicate n (code '0') ++ digits
  else List.replicate n (code ' ') ++ (lead ++ digits)

lemma writes_write (form : Form) (conv : Conversion) (v : Int) :
    form.Writes conv v (Numeral.padded conv.radix (form.precision.getD 1) v.natAbs)
      (form.write conv v) where
  lt_base _ := Numeral.lt_base_of_mem_padded
  value_eq := Numeral.value_padded _ _ _
  length_digits := Numeral.length_padded _ _ _
  fills := by
    unfold write
    split_ifs with hleft hzero
    · exact .trailing _ hleft
    · exact .zeros _ hleft hzero
    · exact .leading _ hleft hzero
  length_eq := by
    unfold write Conversion.spell
    split_ifs
    all_goals
      simp only [List.length_append, List.length_replicate, List.length_map]
      omega

end Form

end Format

end RuntimeSupport

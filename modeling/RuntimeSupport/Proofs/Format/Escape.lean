import RuntimeSupport.Proofs.Format.Padding
import RuntimeSupport.Proofs.Format.Parts

/-!
# Escaped text

Text goes into a format with its percent signs doubled (`escape`), and a run of bytes goes in as an
argument, with the directive `%s` where it is to stand (`interlaced`).  Whatever the bytes are, each
is then written as it is: `Plainly` says so of a format and its arguments, and holds of two formats
one after the other if it holds of both, so it is enough to look at single bytes and at single runs.

The main statement is `format_interlaced`.
-/

namespace RuntimeSupport

namespace Format

open Ascii

/-- Text with every percent sign doubled. -/
def escape (bs : Bytes) : Bytes := bs.flatMap fun b => if b = code '%' then [b, b] else [b]

/-- The format of some text and then, in turn, a run of bytes and more text. -/
def interlaced (text : Bytes) (more : List (Bytes × Bytes)) : Bytes :=
  escape text ++ more.flatMap fun p => bytes "%s" ++ escape p.2

/-- The walk along a format comes to its end, and its fields are bytes without lead or fill. -/
def Plainly (fmt : Bytes) (args : List Argument) (out : Bytes) : Prop :=
  ∃ parts : List Bytes, rendering fmt args = ⟨parts.map Field.plain, .ok ()⟩ ∧ parts.flatten = out

variable {fmt f₁ f₂ out o₁ o₂ : Bytes} {args a₁ a₂ : List Argument}

lemma Plainly.append (h₁ : Plainly f₁ a₁ o₁) (h₂ : Plainly f₂ a₂ o₂) :
    Plainly (f₁ ++ f₂) (a₁ ++ a₂) (o₁ ++ o₂) := by
  obtain ⟨parts₁, hr₁, rfl⟩ := h₁
  obtain ⟨parts₂, hr₂, rfl⟩ := h₂
  have hstop : (rendering f₁ a₁).stop = .ok () := by rw [hr₁]
  refine ⟨parts₁ ++ parts₂, ?_, by rw [List.flatten_append]⟩
  rw [rendering_append hstop, hr₁, hr₂, List.map_append]
  rfl

lemma plainly_nil : Plainly [] [] [] := ⟨[], by rw [rendering, segments]; rfl, rfl⟩

/-- A byte in the text, which is a literal or a directive of two percent signs. -/
lemma plainly_byte (b : UInt8) : Plainly (if b = code '%' then [b, b] else [b]) [] [b] := by
  refine ⟨[[b]], ?_, rfl⟩
  split
  · next hb =>
    have hsegments : segments 0 [b, b] = [.directive 0 ⟨{}, .number 0, none, .percent⟩] := by
      rw [hb]
      decide +kernel
    rw [rendering, hsegments, hb]
    rfl
  · next hb =>
    rw [rendering, segments_literal 0 hb, segments, render]
    rfl

/-- A run of bytes, which the directive neither cuts nor fills. -/
lemma plainly_run (bs : Bytes) : Plainly (bytes "%s") [.bytes bs] bs := by
  refine ⟨[bs], ?_, List.flatten_singleton⟩
  have hsegments : segments 0 (bytes "%s") =
      [.directive 0 ⟨{}, .number 0, none, .conversion .string⟩] := by decide +kernel
  rw [rendering, hsegments]
  rfl

lemma plainly_escape (bs : Bytes) : Plainly (escape bs) [] bs := by
  induction bs with
  | nil => exact plainly_nil
  | cons b bs ih => exact (plainly_byte b).append ih

lemma plainly_interlaced (text : Bytes) (more : List (Bytes × Bytes)) :
    Plainly (interlaced text more) (more.map fun p => .bytes p.1)
      (text ++ more.flatMap fun p => p.1 ++ p.2) := by
  refine (plainly_escape text).append ?_
  induction more with
  | nil => exact plainly_nil
  | cons p more ih => exact ((plainly_run p.1).append (plainly_escape p.2)).append ih

/-! ## Plain fields in a buffer -/

lemma Field.bytes_plain (bs : Bytes) : (Field.plain bs).bytes = bs := by
  simp [Field.bytes, Field.pieces, Field.plain, Field.padding, Piece.bytes]

/-- Fields that are too long for a buffer meet its limit and nothing else, unless one is wider than
is harmless. -/
lemma emit_eq_capacityOverflow {length : Nat} {fs : List Field} (h : length ≤ maxLength)
    (hlead : ∀ f ∈ fs, f.lead.length ≤ 2) (hwidth : ∀ f ∈ fs, f.width.toNat ≤ maxLength + 1)
    (hlong : maxLength < length + totalLength fs) :
    (emit length fs).2 = some .capacityOverflow := by
  have hwraps : (emit length fs).2 ≠ some .arithmeticOverflow := by
    rw [ne_eq, emit_wraps_iff h hlead, not_exists]
    rintro sum ⟨hsum, hw⟩
    have hharmless : ∀ sum ∈ sums length fs, ¬Wraps sum :=
      forall_mem_sums h fun f hf _ _ _ hs => Field.not_wraps (hlead f hf) (hwidth f hf) hs
    exact hharmless sum hsum hw
  have hstops : (emit length fs).2 ≠ none := by
    rw [ne_eq, emit_eq_none_iff h]
    omega
  cases hpanic : (emit length fs).2 with
  | none => exact absurd hpanic hstops
  | some panic =>
    cases panic with
    | capacityOverflow => rfl
    | arithmeticOverflow => exact absurd hpanic hwraps

lemma Plainly.format_eq (h : Plainly fmt args out) :
    format fmt args =
      if out.length ≤ maxLength then .ok out else .error (.panic .capacityOverflow) := by
  obtain ⟨parts, hr, rfl⟩ := h
  have hbytes : (parts.map Field.plain).flatMap Field.bytes = parts.flatten := by
    simp only [List.flatMap_map, Field.bytes_plain, List.flatMap_id']
  split
  · next hfits =>
    rw [format_eq_ok_iff_fields, hr]
    exact ⟨rfl, hbytes.symm, hfits⟩
  · next hlong =>
    have hplain : ∀ f ∈ parts.map Field.plain,
        f.lead.length ≤ 2 ∧ f.width.toNat ≤ maxLength + 1 := by simp [Field.plain]
    have hpanic := emit_eq_capacityOverflow (Nat.zero_le maxLength) (fun f hf => (hplain f hf).1)
      (fun f hf => (hplain f hf).2) (by rw [← length_flatMap_bytes, hbytes]; omega)
    rw [format, formatInto_eq, hr, Rendering.writeTo, List.length_nil, hpanic]

end Format

open Format

/-- Neither arguments nor escaped text are taken for directives.  Formatting text with its percent
signs doubled, and runs of bytes in between by `%s`, writes exactly the text and the runs, whatever
bytes they are made of; only a buffer can be too small for them. -/
theorem format_interlaced (text : Bytes) (more : List (Bytes × Bytes)) :
    format (interlaced text more) (more.map fun p => .bytes p.1) =
      let out := text ++ more.flatMap fun p => p.1 ++ p.2
      if out.length ≤ maxLength then .ok out else .error (.panic .capacityOverflow) :=
  (plainly_interlaced text more).format_eq

/-- Text that starts with what could go on a directive, and a run that spells one. -/
example : format (interlaced (Ascii.bytes "100%") [(Ascii.bytes "%d", Ascii.bytes "-5%n")])
    [.bytes (Ascii.bytes "%d")] = .ok (Ascii.bytes "100%%d-5%n") := by
  decide +kernel

end RuntimeSupport

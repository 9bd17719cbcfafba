import RuntimeSupport.Log.Filter
import RuntimeSupport.Proofs.Text.Utf8
import RuntimeSupport.Sink
import RuntimeSupport.Text.Quoted

/-!
# Diagnostics are whole lines

What is shown of a record leaves out control sequences, and one that is not finished swallows the
end of the line.  Only the escape character starts such a sequence (`SequencePart.next_outside`), so
a record without it is a whole line (`Record.endsLine_line`).  Texts from outside are quoted, which
leaves no escape character in them.
-/

namespace RuntimeSupport

/-- No line has been begun. -/
def EndsLine (bs : Bytes) : Prop := bs = [] ∨ ∃ line, bs = line ++ [Sink.newline]

lemma endsLine_nil : EndsLine [] := .inl rfl

lemma endsLine_newline (bs : Bytes) : EndsLine (bs ++ [Sink.newline]) := .inr ⟨bs, rfl⟩

lemma EndsLine.append {bs line : Bytes} (hbs : EndsLine bs) (hline : EndsLine line) :
    EndsLine (bs ++ line) := by
  rcases hline with rfl | ⟨line, rfl⟩
  · rw [List.append_nil]
    exact hbs
  · rw [← List.append_assoc]
    exact endsLine_newline (bs ++ line)

namespace Text

/-! ## What a terminal shows -/

/-- The byte that starts control sequences. -/
def escapeByte : UInt8 := 0x1B

lemma SequencePart.next_outside {b : UInt8} (hb : b ≠ escapeByte) :
    (SequencePart.outside.next b).getD .outside = .outside := by
  have hescape : ¬b = 0x1B := hb
  simp only [next, if_neg hescape]
  split
  · rfl
  · split <;> rfl

namespace Terminal

variable {t : Terminal} {b : UInt8} {bs : Bytes}

lemma part_read (ht : t.part = .outside) (hb : b ≠ escapeByte) : (t.read b).1.part = .outside := by
  have hnext := SequencePart.next_outside hb
  unfold read
  split
  · exact ht
  · split
    · simp only
      split
      · exact (congrArg _ ht).trans hnext
      · simp only [resume, advance, ht, hnext]
    · simp only [resume, advance, ht, hnext]

/-- Outside of control sequences the end of a line is always shown. -/
lemma read_newline (ht : t.part = .outside) : (t.read Sink.newline).2 = true := by
  have hshows : SequencePart.outside.shows Sink.newline = true := by decide
  unfold read
  split
  · rfl
  · split
    · rfl
    · rw [resume, advance, ht]
      exact hshows

lemma visibleFrom_newline (ht : t.part = .outside) (hbs : escapeByte ∉ bs) :
    ∃ shown, t.visibleFrom (bs ++ [Sink.newline]) = shown ++ [Sink.newline] := by
  induction bs generalizing t with
  | nil =>
    refine ⟨[], ?_⟩
    rw [List.nil_append, visibleFrom]
    simp only [read_newline ht, if_true]
    rfl
  | cons b bs ih =>
    rw [List.mem_cons, not_or] at hbs
    obtain ⟨shown, hshown⟩ := ih (part_read ht (Ne.symm hbs.1)) hbs.2
    rw [List.cons_append, visibleFrom]
    simp only [hshown]
    split
    · exact ⟨b :: shown, rfl⟩
    · exact ⟨shown, rfl⟩

end Terminal

lemma endsLine_visible {bs : Bytes} (hbs : escapeByte ∉ bs) :
    EndsLine (visible (bs ++ [Sink.newline])) :=
  .inr (Terminal.visibleFrom_newline rfl hbs)

/-! ## Texts without control sequences -/

/-- A text holds no character that starts a control sequence. -/
def Plain (s : String) : Prop := '\x1b' ∉ s.toList

instance (s : String) : Decidable (Plain s) := inferInstanceAs (Decidable (_ ∉ _))

lemma Plain.append {s t : String} (hs : Plain s) (ht : Plain t) : Plain (s ++ t) := by
  rw [Plain, String.toList_append, List.mem_append, not_or]
  exact ⟨hs, ht⟩

lemma plain_ofList {cs : List Char} (h : '\x1b' ∉ cs) : Plain (String.ofList cs) := by
  rw [Plain, String.toList_ofList]
  exact h

lemma plain_numeral (r : Numeral.Radix) (n : Nat) : Plain (Numeral.text r n) := by
  refine plain_ofList fun hmem => ?_
  obtain ⟨b, hb, hescape⟩ := List.mem_map.1 hmem
  obtain ⟨d, hd, rfl⟩ := List.mem_map.1 hb
  have hlt : d < 16 := by
    have hbase := Numeral.lt_base_of_mem_digits hd
    cases r <;> simp only [Numeral.Radix.base] at hbase <;> omega
  have hglyph : ∀ d < 16, Char.ofNat (Numeral.glyph false d).toNat ≠ '\x1b' := by decide
  exact hglyph d hlt hescape

lemma plain_signedDecimal (i : Int) : Plain (Numeral.signedDecimal i) := by
  cases i with
  | ofNat n => exact plain_numeral .decimal n
  | negSucc n => exact Plain.append (by decide) (plain_numeral .decimal (n + 1))

/-- Quoting leaves no control in a text. -/
lemma plain_quote (s : String) : Plain (quote s) := by
  have hescape : ∀ c, '\x1b' ∉ escape c := by
    intro c
    have hhex := plain_numeral .hexadecimal c.toNat
    have hcode : '\x1b' ∉ escapeCodePoint c := by
      simp only [escapeCodePoint, List.mem_append, not_or]
      exact ⟨⟨by decide, hhex⟩, by decide⟩
    unfold escape
    repeat' split
    · decide
    · decide
    · decide
    · decide
    · decide
    · decide
    · exact hcode
    · next hprintable =>
      rintro hmem
      obtain rfl := List.mem_singleton.1 hmem
      exact hprintable (by decide +kernel)
  refine plain_ofList ?_
  simp only [List.mem_cons, List.mem_append, List.mem_flatMap, List.not_mem_nil, or_false, not_or,
    not_exists, not_and]
  exact ⟨by decide, fun c _ => hescape c, by decide⟩

lemma eq_of_escapeByte_mem {c : Char} (h : escapeByte ∈ String.utf8EncodeChar c) :
    c = '\x1b' := by
  have hescape : ∀ n < 256, escapeByte = UInt8.ofNat n → n = 0x1B := by decide +kernel
  -- all bytes of a longer encoding are past those of ASCII
  have hlong : ∀ n < 256, 0x80 ≤ n → escapeByte ≠ UInt8.ofNat n := by
    intro n hlt hle hn
    have hval := hescape n hlt hn
    omega
  unfold String.utf8EncodeChar at h
  simp only at h
  split at h
  · have hval := hescape _ (by omega) (List.mem_singleton.1 h)
    exact Char.ext (UInt32.toNat_inj.1 hval)
  · exfalso
    split at h
    · simp only [List.mem_cons, List.not_mem_nil, or_false] at h
      rcases h with h | h
      · exact hlong _ (by omega) (by omega) h
      · exact hlong _ (by omega) (by omega) h
    · split at h
      · simp only [List.mem_cons, List.not_mem_nil, or_false] at h
        rcases h with h | h | h
        · exact hlong _ (by omega) (by omega) h
        · exact hlong _ (by omega) (by omega) h
        · exact hlong _ (by omega) (by omega) h
      · simp only [List.mem_cons, List.not_mem_nil, or_false] at h
        rcases h with h | h | h | h
        · exact hlong _ (by omega) (by omega) h
        · exact hlong _ (by omega) (by omega) h
        · exact hlong _ (by omega) (by omega) h
        · exact hlong _ (by omega) (by omega) h

lemma Plain.encode {cs : List Char} (h : '\x1b' ∉ cs) :
    escapeByte ∉ cs.flatMap String.utf8EncodeChar := by
  intro hmem
  obtain ⟨c, hc, hbyte⟩ := List.mem_flatMap.1 hmem
  exact h (eq_of_escapeByte_mem hbyte ▸ hc)

end Text

namespace Log

lemma not_mem_indent {cs : List Char} (h : '\x1b' ∉ cs) : '\x1b' ∉ indent cs := by
  intro hmem
  obtain ⟨c, hc, hescape⟩ := List.mem_flatMap.1 hmem
  split at hescape
  · exact absurd hescape (by decide)
  · exact h (List.mem_singleton.1 hescape ▸ hc)

/-- A record that says nothing a terminal would obey is shown as a whole line. -/
lemma Record.endsLine_line {r : Record} (h : Text.Plain r.message) : EndsLine r.line := by
  have hlevel : '\x1b' ∉ r.level.name.toList.rightpad 5 ' ' := by cases r.level <;> decide
  have hsource : '\x1b' ∉ r.source.name.toList := by cases r.source <;> decide
  have hbracket : '\x1b' ∉ "] ".toList := by decide
  unfold line
  rw [Text.Utf8.encode_ofList, List.flatMap_append]
  refine Text.endsLine_visible (Text.Plain.encode ?_)
  simp only [List.mem_cons, List.mem_append, not_or]
  exact ⟨⟨⟨⟨by decide, hlevel⟩, by decide, hsource⟩, hbracket⟩, not_mem_indent h⟩

/-- What is left out of a filter is reported in whole lines. -/
lemma Complaint.endsLine_line (c : Complaint) : EndsLine c.line := by
  have hlast : ", ignoring it\n".toList = ", ignoring it".toList ++ ['\n'] := by decide
  have hline : "warning: " ++ c.describe ++ ", ignoring it\n" =
      String.ofList (("warning: " ++ c.describe).toList ++ ", ignoring it".toList ++ ['\n']) := by
    rw [List.append_assoc, ← hlast, ← String.toList_append, String.ofList_toList]
  rw [line, hline, Text.Utf8.encode_ofList, List.flatMap_append]
  exact endsLine_newline _

end Log

end RuntimeSupport

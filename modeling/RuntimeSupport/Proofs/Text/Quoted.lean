import RuntimeSupport.Proofs.Text.Numeral
import RuntimeSupport.Text.Quoted

/-!
# Quoted text can be read back

`ShownAs c cs` says in which of three ways a character is written between quotes.  No way of writing
a character starts like a way of writing another one (`ShownAs.append_inj`), so a quoted text stands
for one text only: `quote_injective`.
-/

namespace RuntimeSupport.Text

/-- The characters with a short name, and the names. -/
def shortNames : List (Char × Char) :=
  [('"', '"'), ('\\', '\\'), ('\x00', '0'), ('\t', 't'), ('\n', 'n'), ('\r', 'r')]

/-- A character is written as itself, by its short name or by its code point. -/
inductive ShownAs : Char → List Char → Prop
  | itself {c : Char} (h : c ≠ '\\') : ShownAs c [c]
  | named {c name : Char} (h : (c, name) ∈ shortNames) : ShownAs c ['\\', name]
  | coded (c : Char) : ShownAs c (escapeCodePoint c)

variable {c d : Char} {cs ds x y : List Char}

lemma shownAs_escape (c : Char) : ShownAs c (escape c) := by
  unfold escape
  split_ifs with hquote hbackslash hnul htab hline hreturn
  · exact .named (by rw [hquote]; decide)
  · exact .named (by rw [hbackslash]; decide)
  · exact .named (by rw [hnul]; decide)
  · exact .named (by rw [htab]; decide)
  · exact .named (by rw [hline]; decide)
  · exact .named (by rw [hreturn]; decide)
  · exact .coded c
  · exact .itself hbackslash

lemma ShownAs.ne_nil (h : ShownAs c cs) : cs ≠ [] := by
  cases h with
  | itself => exact List.cons_ne_nil _ _
  | named => exact List.cons_ne_nil _ _
  | coded => exact List.cons_ne_nil _ _

lemma eq_of_mem_shortNames {name : Char} (hc : (c, name) ∈ shortNames)
    (hd : (d, name) ∈ shortNames) : c = d := by
  have hall : ∀ p ∈ shortNames, ∀ q ∈ shortNames, p.2 = q.2 → p.1 = q.1 := by decide
  exact hall _ hc _ hd rfl

/-- No short name is the mark of a code point. -/
lemma ne_of_mem_shortNames {name : Char} (h : (c, name) ∈ shortNames) : name ≠ 'u' := by
  have hall : ∀ p ∈ shortNames, p.2 ≠ 'u' := by decide
  exact hall _ h

lemma escapeCodePoint_append (c : Char) (x : List Char) :
    escapeCodePoint c ++ x =
      '\\' :: 'u' :: '\x7b' :: ((Numeral.text .hexadecimal c.toNat).toList ++ '\x7d' :: x) := by
  simp only [escapeCodePoint, List.cons_append, List.nil_append, List.append_assoc]

lemma escapeCodePoint_append_inj (h : escapeCodePoint c ++ x = escapeCodePoint d ++ y) :
    c = d ∧ x = y := by
  rw [escapeCodePoint_append, escapeCodePoint_append] at h
  simp only [List.cons.injEq, true_and] at h
  obtain ⟨hcode, hrest⟩ := Numeral.text_append_inj h rfl rfl
  exact ⟨Char.toNat_inj.1 hcode, (List.cons.inj hrest).2⟩

/-- Two characters that are written at the front of the same text are the same one, and the same
text is left behind them. -/
theorem ShownAs.append_inj (hc : ShownAs c cs) (hd : ShownAs d ds) (h : cs ++ x = ds ++ y) :
    c = d ∧ x = y := by
  cases hc with
  | itself hbackslash =>
    -- only what is written as itself does not start with a backslash
    cases hd with
    | itself => exact List.cons.inj h
    | named => exact absurd (List.cons.inj h).1 hbackslash
    | coded => exact absurd (List.cons.inj h).1 hbackslash
  | named hname =>
    cases hd with
    | itself hbackslash => exact absurd (List.cons.inj h).1.symm hbackslash
    | named hname' =>
      obtain ⟨rfl, hrest⟩ := List.cons.inj (List.cons.inj h).2
      exact ⟨eq_of_mem_shortNames hname hname', hrest⟩
    | coded => exact absurd (List.cons.inj (List.cons.inj h).2).1 (ne_of_mem_shortNames hname)
  | coded =>
    cases hd with
    | itself hbackslash => exact absurd (List.cons.inj h).1.symm hbackslash
    | named hname =>
      exact absurd (List.cons.inj (List.cons.inj h).2).1.symm (ne_of_mem_shortNames hname)
    | coded => exact escapeCodePoint_append_inj h

lemma flatMap_escape_injective : Function.Injective (List.flatMap escape) := by
  intro s t h
  induction s generalizing t with
  | nil =>
    cases t with
    | nil => rfl
    | cons d t => exact absurd (List.append_eq_nil_iff.1 h.symm).1 (shownAs_escape d).ne_nil
  | cons c s ih =>
    cases t with
    | nil => exact absurd (List.append_eq_nil_iff.1 h).1 (shownAs_escape c).ne_nil
    | cons d t =>
      obtain ⟨rfl, hrest⟩ := (shownAs_escape c).append_inj (shownAs_escape d) h
      rw [ih hrest]

/-- A quoted text stands for one text only. -/
theorem quote_injective : Function.Injective quote := by
  intro s t h
  have hlist : '"' :: (s.toList.flatMap escape ++ ['"']) =
      '"' :: (t.toList.flatMap escape ++ ['"']) := String.ofList_injective h
  exact String.toList_inj.1 (flatMap_escape_injective
    (List.append_cancel_right (List.cons.inj hlist).2))

end RuntimeSupport.Text

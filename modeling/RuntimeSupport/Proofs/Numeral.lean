import Mathlib.Data.List.Induction
import RuntimeSupport.Numeral

/-!
# The grammar of decimal integers

`Spells cs i` says that the characters `cs` spell the integer `i`: decimal digits, at least one, and
a sign in front of them at most.  Reading accepts exactly what the grammar derives
(`readInteger?_eq_some_iff`); reading into 32 bits refuses the integers that do not fit as well
(`readInt32?_eq_some_iff`).
-/

namespace RuntimeSupport.Numeral

/-- Characters are decimal digits and spell a natural number. -/
inductive SpellsNat : List Char → Nat → Prop
  | single {c : Char} : c.isDigit → SpellsNat [c] (c.toNat - '0'.toNat)
  | snoc {cs : List Char} {n : Nat} {c : Char} :
      SpellsNat cs n → c.isDigit → SpellsNat (cs ++ [c]) (n * 10 + (c.toNat - '0'.toNat))

/-- Characters are decimal digits, with a sign or without, and spell an integer. -/
inductive Spells : List Char → Int → Prop
  | plain {cs : List Char} {n : Nat} : SpellsNat cs n → Spells cs n
  | plus {cs : List Char} {n : Nat} : SpellsNat cs n → Spells ('+' :: cs) n
  | minus {cs : List Char} {n : Nat} : SpellsNat cs n → Spells ('-' :: cs) (-n)

variable {cs : List Char} {n : Nat}

lemma readDigits?_append_singleton {c : Char} (hcs : cs ≠ []) :
    readDigits? (cs ++ [c]) =
      if c.isDigit then (readDigits? cs).map fun n => n * 10 + (c.toNat - '0'.toNat) else none := by
  unfold readDigits?
  have hall : (cs ++ [c]).all Char.isDigit = (cs.all Char.isDigit && c.isDigit) := by simp
  rw [hall, List.map_append, List.map_singleton, value_append_singleton]
  cases hc : c.isDigit with
  | false => simp
  | true => split <;> simp_all [Radix.base]

lemma spellsNat_of_readDigits? (h : readDigits? cs = some n) : SpellsNat cs n := by
  -- the last digit is the least significant one, so the grammar grows at the end
  induction cs using List.reverseRecOn generalizing n with
  | nil => simp [readDigits?] at h
  | append_singleton cs c ih =>
    by_cases hcs : cs = []
    · subst hcs
      simp only [readDigits?, List.nil_append, Option.ite_none_right_eq_some] at h
      obtain ⟨⟨-, hc⟩, h⟩ := h
      simp only [value, List.map_cons, List.map_nil, List.foldl_cons, List.foldl_nil,
        Nat.zero_mul, Nat.zero_add, Option.some.injEq] at h
      subst h
      exact .single (by simpa using hc)
    · rw [readDigits?_append_singleton hcs, Option.ite_none_right_eq_some,
        Option.map_eq_some_iff] at h
      obtain ⟨hc, m, hm, rfl⟩ := h
      exact .snoc (ih hm) hc

lemma SpellsNat.ne_nil (h : SpellsNat cs n) : cs ≠ [] := by
  cases h <;> simp

lemma SpellsNat.isDigit_of_mem {c : Char} (h : SpellsNat cs n) (hc : c ∈ cs) : c.isDigit := by
  induction h with
  | single hd =>
    rw [List.mem_singleton] at hc
    exact hc ▸ hd
  | snoc _ hd ih =>
    rw [List.mem_append, List.mem_singleton] at hc
    rcases hc with hc | hc
    · exact ih hc
    · exact hc ▸ hd

lemma readDigits?_of_spellsNat (h : SpellsNat cs n) : readDigits? cs = some n := by
  induction h with
  | single hd => simp [readDigits?, hd, value]
  | snoc hcs hd ih => rw [readDigits?_append_singleton hcs.ne_nil, if_pos hd, ih, Option.map_some]

lemma readDigits?_eq_some_iff : readDigits? cs = some n ↔ SpellsNat cs n :=
  ⟨spellsNat_of_readDigits?, readDigits?_of_spellsNat⟩

lemma map_readDigits?_eq_some_iff {f : Int → Int} {i : Int} :
    (do let n ← readDigits? cs; pure (n : Int) : Option Int).map f = some i ↔
      ∃ n : Nat, SpellsNat cs n ∧ f n = i := by
  simp [Option.bind_eq_some_iff, readDigits?_eq_some_iff]

/-- Reading an integer accepts the integers of the grammar and nothing else. -/
theorem readInteger?_eq_some_iff {i : Int} : readInteger? cs = some i ↔ Spells cs i := by
  constructor
  · intro h
    unfold readInteger? at h
    split at h
    · obtain ⟨n, hn, rfl⟩ := map_readDigits?_eq_some_iff.1 h
      exact .minus hn
    · obtain ⟨n, hn, rfl⟩ := map_readDigits?_eq_some_iff.1 h
      exact .plus hn
    · obtain ⟨n, hn, rfl⟩ := map_readDigits?_eq_some_iff.1 h
      exact .plain hn
  · intro h
    cases h with
    | minus hn => exact map_readDigits?_eq_some_iff.2 ⟨_, hn, rfl⟩
    | plus hn => exact map_readDigits?_eq_some_iff.2 ⟨_, hn, rfl⟩
    | plain hn =>
      -- a sign is no digit, so what starts with a digit is read as it stands
      unfold readInteger?
      split
      · exact absurd (hn.isDigit_of_mem List.mem_cons_self) (by decide)
      · exact absurd (hn.isDigit_of_mem List.mem_cons_self) (by decide)
      · exact map_readDigits?_eq_some_iff.2 ⟨_, hn, rfl⟩

/-- Reading into 32 bits accepts the integers of the grammar that have so many. -/
theorem readInt32?_eq_some_iff {code : Int32} :
    readInt32? cs = some code ↔ Spells cs code.toInt := by
  rw [← readInteger?_eq_some_iff]
  have hlow := code.le_toInt
  have hhigh := code.toInt_lt
  unfold readInt32?
  cases readInteger? cs with
  | none => simp
  | some i =>
    simp only [Option.ite_none_right_eq_some, Option.some.injEq]
    constructor
    · rintro ⟨⟨hmin, hmax⟩, rfl⟩
      exact (Int32.toInt_ofInt_of_le hmin hmax).symm
    · rintro rfl
      exact ⟨⟨hlow, hhigh⟩, Int32.ofInt_toInt code⟩

end RuntimeSupport.Numeral

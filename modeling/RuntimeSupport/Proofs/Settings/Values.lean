import RuntimeSupport.Proofs.Settings.Environment
import RuntimeSupport.Proofs.Text.Blank

/-!
# What the values of the variables stand for

`ReadsAs text core` says what becomes of a value whose core, without the blanks at its ends, is
given: which exit code or policy it stands for, and how it is rejected.  Exit codes go by the
grammar of decimal integers (`Numeral.Spells`).  A positive integer is spelled without a minus sign
(`Numeral.spells_natCast_iff`), so the sign of an exit code that is accepted is a plus sign if it
has one.  The main statement is `values_read_exactly`.
-/

namespace RuntimeSupport

open Numeral (Spells SpellsNat)

/-- A positive number is spelled by its digits, with a plus sign at most. -/
lemma Numeral.spells_natCast_iff {cs : List Char} {n : Nat} (hn : 0 < n) :
    Spells cs n ↔ ∃ digits, SpellsNat digits n ∧ (cs = digits ∨ cs = '+' :: digits) := by
  constructor
  · intro h
    generalize hi : (n : Int) = i at h
    cases h with
    | plain hdigits =>
      obtain rfl := Int.natCast_inj.1 hi
      exact ⟨_, hdigits, .inl rfl⟩
    | plus hdigits =>
      obtain rfl := Int.natCast_inj.1 hi
      exact ⟨_, hdigits, .inr rfl⟩
    | minus hdigits => omega
  · rintro ⟨digits, hdigits, rfl | rfl⟩
    · exact .plain hdigits
    · exact .plus hdigits

namespace Settings

variable {text core value : String} {code : Int32}

/-! ## Exit codes -/

lemma readExitCode_eq_ok_iff :
    readExitCode (some text) = .ok code ↔
      Spells (Text.trim text).toList code.toInt ∧ IsFailureCode code := by
  rw [← Numeral.readInt32?_eq_some_iff, readExitCode]
  cases Numeral.readInt32? (Text.trim text).toList with
  | none => simp
  | some read =>
    simp only [Option.some.injEq]
    constructor
    · intro h
      split at h
      · next hread =>
        cases h
        exact ⟨rfl, hread⟩
      · cases h
    · rintro ⟨rfl, hcode⟩
      rw [if_pos hcode]

lemma readExitCode_eq_outOfRange_iff :
    readExitCode (some text) = .error (.exitCodeOutOfRange code) ↔
      Spells (Text.trim text).toList code.toInt ∧ ¬IsFailureCode code := by
  rw [← Numeral.readInt32?_eq_some_iff, readExitCode]
  cases Numeral.readInt32? (Text.trim text).toList with
  | none => simp
  | some read =>
    simp only [Option.some.injEq]
    constructor
    · intro h
      split at h
      · cases h
      · next hread =>
        cases h
        exact ⟨rfl, hread⟩
    · rintro ⟨rfl, hcode⟩
      rw [if_neg hcode]

lemma readExitCode_eq_invalid_iff :
    readExitCode (some text) = .error (.invalidExitCode value) ↔
      value = text ∧ Numeral.readInt32? (Text.trim text).toList = none := by
  rw [readExitCode]
  cases Numeral.readInt32? (Text.trim text).toList with
  | none => simp [eq_comm]
  | some read =>
    simp only [reduceCtorEq, and_false, iff_false]
    split <;> simp

/-- A numeral is read unless it spells nothing that 32 bits can hold. -/
lemma readInt32?_eq_none_iff {cs : List Char} :
    Numeral.readInt32? cs = none ↔ ∀ i, Spells cs i → i < -2147483648 ∨ 2147483647 < i := by
  simp only [Option.eq_none_iff_forall_ne_some, ne_eq, Numeral.readInt32?_eq_some_iff]
  constructor
  · intro h i hi
    by_contra hfits
    have hword : (Int32.ofInt i).toInt = i := Int32.toInt_ofInt_of_le (by omega) (by omega)
    exact h (Int32.ofInt i) (hword.symm ▸ hi)
  · intro h code hcode
    have hlow := code.le_toInt
    have hhigh := code.toInt_lt
    have := h code.toInt hcode
    omega

/-- What becomes of a value with the given core. -/
structure ReadsAs (text core : String) : Prop where
  /-- An exit code is accepted if its core is a number from 1 to 255, written with a plus sign at
  most. -/
  accepted : ∀ code, readExitCode (some text) = .ok code ↔
    ∃ digits n, SpellsNat digits n ∧ (core.toList = digits ∨ core.toList = '+' :: digits) ∧
      code.toInt = n ∧ 1 ≤ n ∧ n ≤ 255
  /-- It is out of range if its core is another integer that 32 bits can hold. -/
  outOfRange : ∀ code, readExitCode (some text) = .error (.exitCodeOutOfRange code) ↔
    Spells core.toList code.toInt ∧ ¬(1 ≤ code.toInt ∧ code.toInt ≤ 255)
  /-- Otherwise it is invalid, and the error shows the value with its blanks. -/
  invalid : ∀ value, readExitCode (some text) = .error (.invalidExitCode value) ↔
    value = text ∧ ∀ i, Spells core.toList i → i < -2147483648 ∨ 2147483647 < i
  /-- The policy `exit` comes with the exit code that has been read before. -/
  exit : ∀ code code', readPolicy code (some text) = .ok (.exit code') ↔
    core = "exit" ∧ code' = code
  /-- The policy `trap` comes with none. -/
  trap : ∀ code, readPolicy code (some text) = .ok .trap ↔ core = "trap"
  /-- There is no other policy, and the error shows the value without its blanks. -/
  unknown : ∀ code e, readPolicy code (some text) = .error e ↔
    e = .unknownAbortPolicy core ∧ core ≠ "exit" ∧ core ≠ "trap"

lemma accepted_iff (text : String) (code : Int32) :
    readExitCode (some text) = .ok code ↔
      ∃ digits n, SpellsNat digits n ∧
        ((Text.trim text).toList = digits ∨ (Text.trim text).toList = '+' :: digits) ∧
          code.toInt = n ∧ 1 ≤ n ∧ n ≤ 255 := by
  rw [readExitCode_eq_ok_iff, isFailureCode_iff]
  constructor
  · rintro ⟨hspells, hlow, hhigh⟩
    obtain ⟨n, hn⟩ := Int.eq_ofNat_of_zero_le (by omega : 0 ≤ code.toInt)
    rw [hn] at hspells
    obtain ⟨digits, hdigits, hcore⟩ := (Numeral.spells_natCast_iff (by omega)).1 hspells
    exact ⟨digits, n, hdigits, hcore, hn, by omega, by omega⟩
  · rintro ⟨digits, n, hdigits, hcore, hn, hlow, hhigh⟩
    refine ⟨?_, by omega, by omega⟩
    rw [hn]
    exact (Numeral.spells_natCast_iff (by omega)).2 ⟨digits, hdigits, hcore⟩

/-! ## Policies -/

lemma readPolicy_some (code : Int32) (text : String) :
    readPolicy code (some text) =
      if Text.trim text = "exit" then .ok (.exit code)
      else if Text.trim text = "trap" then .ok .trap
      else .error (.unknownAbortPolicy (Text.trim text)) := rfl

lemma readsAs_trim (text : String) : ReadsAs text (Text.trim text) where
  accepted := accepted_iff text
  outOfRange code := by rw [readExitCode_eq_outOfRange_iff, isFailureCode_iff]
  invalid value := by rw [readExitCode_eq_invalid_iff, readInt32?_eq_none_iff]
  exit code code' := by
    rw [readPolicy_some]
    split
    · next hexit => simp [hexit, eq_comm]
    · next hexit => split <;> simp [hexit]
  trap code := by
    rw [readPolicy_some]
    split
    · next hexit => simp [hexit]
    · split
      · next htrap => simp [htrap]
      · next htrap => simp [htrap]
  unknown code e := by
    rw [readPolicy_some]
    split
    · next hexit => simp [hexit]
    · next hexit =>
      split
      · next htrap => simp [htrap]
      · next htrap => simp [hexit, htrap, eq_comm]

/-- A value is read by its core, which is all of it but the blanks at its ends.  So blanks around a
value change neither whether it is accepted nor what it means. -/
theorem values_read_exactly (text : String) :
    ∃ core, (∀ t, Text.Strips text t ↔ t = core) ∧ ReadsAs text core ∧
      ∀ before after, Text.AllBlank before → Text.AllBlank after →
        (readExitCode (some (before ++ text ++ after))).toOption =
            (readExitCode (some text)).toOption ∧
          ∀ code, readPolicy code (some (before ++ text ++ after)) =
            readPolicy code (some text) := by
  refine ⟨Text.trim text, fun t => Text.strips_iff, readsAs_trim text, ?_⟩
  intro before after hbefore hafter
  have hcore := Text.trim_around hbefore hafter text
  constructor
  · -- only the error that shows the whole value tells the two apart
    ext code
    rw [toOption_eq_some_iff, toOption_eq_some_iff, readExitCode_eq_ok_iff, readExitCode_eq_ok_iff,
      hcore]
  · intro code
    rw [readPolicy_some, readPolicy_some, hcore]

/-- Leading zeros behind a plus sign, between blanks of several kinds. -/
theorem values_read_exactly_padded :
    Text.AllBlank "\t\u2003" ∧ Text.AllBlank "\u3000\n" ∧
      (readExitCode (some ("\t\u2003" ++ "+00255" ++ "\u3000\n"))).toOption = some 255 ∧
      readPolicy 7 (some ("\t\u2003" ++ "+00255" ++ "\u3000\n")) =
        .error (.unknownAbortPolicy "+00255") := by
  have hbefore : Text.AllBlank "\t\u2003" := by simp [Text.AllBlank, Text.isBlank]
  have hafter : Text.AllBlank "\u3000\n" := by simp [Text.AllBlank, Text.isBlank]
  obtain ⟨core, -, -, hpadded⟩ := values_read_exactly "+00255"
  obtain ⟨hcode, hpolicy⟩ := hpadded "\t\u2003" "\u3000\n" hbefore hafter
  refine ⟨hbefore, hafter, ?_, ?_⟩
  · rw [hcode]
    decide +kernel
  · rw [hpolicy]
    decide +kernel

end Settings

end RuntimeSupport

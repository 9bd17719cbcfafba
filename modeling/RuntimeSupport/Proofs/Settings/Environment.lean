import Mathlib.Data.List.Nodup
import RuntimeSupport.Proofs.Numeral
import RuntimeSupport.Proofs.Settings.Loading
import RuntimeSupport.Proofs.Text.Utf8

/-!
# Settings from raw environments

The values in an environment are bytes.  `Variable.Admits` says which texts a variable may have, and
`Environment.Invalid` which variables have another text.  These are the ones that are rejected, each
once, and any of them makes strict loading fail (`load_rejects_invalid_text`).

A value that is no text at all is not among them: it is taken for one that is not set.
-/

namespace RuntimeSupport

namespace Settings

variable {text : String} {lookup : Lookup} {v : Variable}

/-- The texts that a variable may have.  Blanks at their ends do not count. -/
def Variable.Admits (text : String) : Variable → Prop
  | .abort => Text.trim text = "exit" ∨ Text.trim text = "trap"
  | .exitCode => ∃ i : Int, Numeral.Spells (Text.trim text).toList i ∧ 1 ≤ i ∧ i ≤ 255
  | .log => True

lemma isFailureCode_iff (code : Int32) :
    IsFailureCode code ↔ 1 ≤ code.toInt ∧ code.toInt ≤ 255 := by
  unfold IsFailureCode
  rw [Int32.le_iff_toInt_le, Int32.le_iff_toInt_le]
  rfl

lemma accepts_none (v : Variable) : v.accepts none = true := by
  cases v <;> rfl

lemma accepts_abort_iff :
    Variable.abort.accepts (some text) = true ↔
      Text.trim text = "exit" ∨ Text.trim text = "trap" := by
  rw [Variable.accepts, readPolicy]
  by_cases hexit : Text.trim text = "exit"
  · simp [hexit, Except.isOk, Except.toBool]
  · by_cases htrap : Text.trim text = "trap"
    · simp [htrap, Except.isOk, Except.toBool]
    · simp [hexit, htrap, Except.isOk, Except.toBool]

lemma readExitCode_some_isOk_iff :
    (readExitCode (some text)).isOk = true ↔
      ∃ code, Numeral.readInt32? (Text.trim text).toList = some code ∧ IsFailureCode code := by
  rw [readExitCode]
  cases Numeral.readInt32? (Text.trim text).toList with
  | none => simp [Except.isOk, Except.toBool]
  | some code =>
    by_cases hcode : IsFailureCode code
    · simp [hcode, Except.isOk, Except.toBool]
    · simp [hcode, Except.isOk, Except.toBool]

lemma accepts_exitCode_iff :
    Variable.exitCode.accepts (some text) = true ↔
      ∃ i : Int, Numeral.Spells (Text.trim text).toList i ∧ 1 ≤ i ∧ i ≤ 255 := by
  rw [Variable.accepts, readExitCode_some_isOk_iff]
  simp only [Numeral.readInt32?_eq_some_iff, isFailureCode_iff]
  constructor
  · rintro ⟨code, hspells, hcode⟩
    exact ⟨code.toInt, hspells, hcode⟩
  · -- what lies between the bounds has 32 bits
    rintro ⟨i, hspells, hlow, hhigh⟩
    have hi : (Int32.ofInt i).toInt = i := Int32.toInt_ofInt_of_le (by omega) (by omega)
    exact ⟨Int32.ofInt i, by rwa [hi], by rw [hi]; exact ⟨hlow, hhigh⟩⟩

lemma accepts_some_iff : v.accepts (some text) = true ↔ v.Admits text := by
  cases v with
  | abort => exact accepts_abort_iff
  | exitCode => exact accepts_exitCode_iff
  | log => exact iff_of_true rfl trivial

/-! ## Loading and rejecting -/

lemma count_rejected (lookup : Lookup) (v : Variable) :
    lookup.rejected.count v = if v.accepts (lookup v) then 0 else 1 := by
  split
  · next h =>
    rw [List.count_eq_zero, mem_rejected, h]
    decide
  · next h =>
    have hmem : v ∈ lookup.rejected := mem_rejected.2 (by simpa using h)
    have hnodup : lookup.rejected.Nodup := by
      rw [rejected_eq]
      exact List.Nodup.filter _ (by decide)
    exact List.count_eq_one_of_mem hnodup hmem

lemma load_isOk_iff : (∃ s, load lookup = .ok s) ↔ ∀ v : Variable, v.accepts (lookup v) = true := by
  rw [load_eq]
  have hrejected : (loadLenient lookup).2 = [] ↔ lookup.rejected = [] := by
    rw [Lookup.rejected, List.map_eq_nil_iff]
  have hnil : lookup.rejected = [] ↔ ∀ v : Variable, v.accepts (lookup v) = true := by
    simp [List.eq_nil_iff_forall_not_mem, mem_rejected]
  rw [← hnil, ← hrejected]
  cases (loadLenient lookup).2 with
  | nil => simp
  | cons e es => simp

end Settings

open Settings

/-- A variable has a text that it may not have. -/
def Environment.Invalid (env : Environment) (v : Variable) : Prop :=
  ∃ text, env v.name = some (Text.Utf8.encode text) ∧ ¬v.Admits text

lemma Environment.accepts_lookup_iff (env : Environment) (v : Variable) :
    v.accepts (env.lookup v) = true ↔ ¬env.Invalid v := by
  unfold Environment.lookup Environment.Invalid
  cases hv : env v.name with
  | none => simp [accepts_none]
  | some bs =>
    simp only [Option.bind_some, Option.some.injEq, not_exists, not_and, not_not]
    cases hbs : Text.Utf8.decode? bs with
    | none =>
      refine iff_of_true (accepts_none v) ?_
      rintro text rfl
      rw [Text.Utf8.decode?_eq_some_iff.2 rfl] at hbs
      cases hbs
    | some text =>
      rw [accepts_some_iff]
      have htext := Text.Utf8.decode?_eq_some_iff.1 hbs
      constructor
      · rintro h text' htext'
        rw [htext', Text.Utf8.decode?_eq_some_iff.2 rfl, Option.some.injEq] at hbs
        exact hbs ▸ h
      · exact fun h => h text htext.symm

lemma Environment.lookup_of_not_text {env : Environment} {v : Variable} {bs : Bytes}
    (hv : env v.name = some bs) (hbs : ∀ text, Text.Utf8.encode text ≠ bs) :
    env.lookup v = none := by
  rw [Environment.lookup, hv, Option.bind_some, Option.eq_none_iff_forall_ne_some]
  intro text htext
  exact hbs text (Text.Utf8.decode?_eq_some_iff.1 htext)

/-- Loading from an environment fails exactly if some variable has a text that it may not have, and
each such variable is reported once.  A variable whose bytes are no text is never reported, and the
settings are what they would be without it. -/
theorem load_rejects_invalid_text (env : Environment) :
    ((∃ e, load env.lookup = .error e) ↔ ∃ v, env.Invalid v) ∧
    (∀ v, env.Invalid v → env.lookup.rejected.count v = 1) ∧
    (∀ v, ¬env.Invalid v → env.lookup.rejected.count v = 0) ∧
    (∀ v bs, env v.name = some bs → (∀ text, Text.Utf8.encode text ≠ bs) →
      ¬env.Invalid v ∧ env.lookup.unset [v] = env.lookup) := by
  refine ⟨?_, ?_, ?_, ?_⟩
  · have hok : (∃ s, load env.lookup = .ok s) ↔ ∀ v, ¬env.Invalid v := by
      simp only [load_isOk_iff, Environment.accepts_lookup_iff]
    have hnot : (∃ e, load env.lookup = .error e) ↔ ¬∃ s, load env.lookup = .ok s := by
      cases load env.lookup <;> simp
    rw [hnot, hok, not_forall_not]
  · intro v hv
    rw [count_rejected, if_neg]
    rwa [Environment.accepts_lookup_iff, not_not]
  · intro v hv
    rw [count_rejected, if_pos ((env.accepts_lookup_iff v).2 hv)]
  · intro v bs hv hbs
    constructor
    · rintro ⟨text, htext, -⟩
      exact hbs text (by simpa [hv] using htext.symm)
    · funext w
      rw [Lookup.unset]
      split
      · next hw =>
        rw [List.mem_singleton.1 hw, Environment.lookup_of_not_text hv hbs]
      · rfl

/-- A byte that no text has makes an exit code pass for one that is not set. -/
theorem load_accepts_undecodable :
    let env := Environment.ofAssignments [("AURT_EXIT_CODE", [0xFF])]
    env "AURT_EXIT_CODE" = some [0xFF] ∧ (∀ text, Text.Utf8.encode text ≠ [0xFF]) ∧
      load env.lookup = .ok Settings.default ∧ loadLenient env.lookup = (Settings.default, []) := by
  have hnone : Text.Utf8.decode? [0xFF] = none := by decide +kernel
  refine ⟨by decide +kernel, ?_, by decide +kernel, by decide +kernel⟩
  intro text htext
  rw [Text.Utf8.decode?_eq_some_iff.2 htext] at hnone
  cases hnone

end RuntimeSupport

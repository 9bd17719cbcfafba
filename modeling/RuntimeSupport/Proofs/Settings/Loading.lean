import RuntimeSupport.Proofs.Outcome
import RuntimeSupport.Settings

/-!
# The two ways to load settings

Both ways of loading read the exit code first and the abort policy with it.  What they load is
always valid (`validate_load`, `validate_loadLenient`), so strict loading fails only where a value
is rejected, and then with the error that lenient loading reports first.  A rejected value makes a
difference to its own setting alone: the others are what they would be without it.

The main statement is `load_agrees_loadLenient`.
-/

namespace RuntimeSupport.Settings

variable {code : Int32} {value : Option String} {policy : AbortPolicy} {s : Settings} {e : Error}

/-! ## Valid settings -/

lemma readExitCode_isFailureCode (h : readExitCode value = .ok code) : IsFailureCode code := by
  unfold readExitCode at h
  split at h
  · cases h
    decide
  · split at h
    · cases h
    · split at h
      · cases h
        assumption
      · cases h

lemma readPolicy_eq_ok (h : readPolicy code value = .ok policy) :
    policy = .exit code ∨ policy = .trap := by
  unfold readPolicy at h
  split at h
  · cases h
    exact .inl rfl
  · simp only at h
    split at h
    · cases h
      exact .inl rfl
    · split at h
      · cases h
        exact .inr rfl
      · cases h

lemma validate_of_policy (hcode : IsFailureCode code)
    (hpolicy : s.abort = .exit code ∨ s.abort = .trap) : s.validate = .ok () := by
  unfold validate
  rcases hpolicy with hpolicy | hpolicy
  · simp only [hpolicy, if_pos hcode]
  · simp only [hpolicy]

lemma orElseReport_fst {α : Type} {P : α → Prop} {fallback : α} {r : Except Error α}
    (hok : ∀ a, r = .ok a → P a) (hfallback : P fallback) : P (orElseReport fallback r).1 := by
  cases r with
  | ok a => exact hok a rfl
  | error e => exact hfallback

-- Lenient loading validates nothing: whatever it falls back to is valid by itself.
lemma validate_loadLenient (lookup : Lookup) : (loadLenient lookup).1.validate = .ok () := by
  have hcode : IsFailureCode (orElseReport defaultExitCode (readExitCode (lookup .exitCode))).1 :=
    orElseReport_fst (fun _ hread => readExitCode_isFailureCode hread) (by decide)
  refine validate_of_policy hcode ?_
  exact orElseReport_fst (P := fun policy => policy = _ ∨ policy = _)
    (fun _ hread => readPolicy_eq_ok hread) (.inl rfl)

lemma validate_load {lookup : Lookup} (h : load lookup = .ok s) : s.validate = .ok () := by
  obtain ⟨code, -, h⟩ := bind_eq_ok.1 h
  obtain ⟨policy, -, h⟩ := bind_eq_ok.1 h
  obtain ⟨⟨⟩, hvalid, h⟩ := bind_eq_ok.1 h
  cases h
  exact hvalid

/-! ## Rejected values -/

/-- The variable whose value an error rejects. -/
def Error.culprit : Error → Variable
  | .unknownAbortPolicy _ => .abort
  | .invalidExitCode _ | .exitCodeOutOfRange _ => .exitCode

/-- The variables whose values lenient loading rejects, in the order in which it reports them. -/
def Lookup.rejected (lookup : Lookup) : List Variable := (loadLenient lookup).2.map Error.culprit

/-- Whether a value is one that its variable may have. -/
def Variable.accepts (value : Option String) : Variable → Bool
  | .abort => (readPolicy defaultExitCode value).isOk
  | .exitCode => (readExitCode value).isOk
  | .log => true

/-- The values that are left when some variables are unset. -/
def Lookup.unset (lookup : Lookup) (vs : List Variable) : Lookup := fun v =>
  if v ∈ vs then none else lookup v

lemma culprit_of_readExitCode (h : readExitCode value = .error e) : e.culprit = .exitCode := by
  unfold readExitCode at h
  split at h
  · cases h
  · split at h
    · cases h
      rfl
    · split at h
      · cases h
      · cases h
        rfl

lemma culprit_of_readPolicy (h : readPolicy code value = .error e) : e.culprit = .abort := by
  unfold readPolicy at h
  split at h
  · cases h
  · simp only at h
    split at h
    · cases h
    · split at h
      · cases h
      · cases h
        rfl

/-- Whether a policy is accepted does not depend on the exit code that it may come with. -/
lemma isOk_readPolicy (code code' : Int32) (value : Option String) :
    (readPolicy code value).isOk = (readPolicy code' value).isOk := by
  unfold readPolicy
  cases value with
  | none => rfl
  | some text =>
    simp only
    split
    · rfl
    · split <;> rfl

lemma map_culprit_orElseReport {α : Type} {r : Except Error α} (fallback : α) {v : Variable}
    (h : ∀ e, r = .error e → e.culprit = v) :
    (orElseReport fallback r).2.map Error.culprit = if r.isOk then [] else [v] := by
  cases r with
  | ok a => rfl
  | error e => exact congrArg (fun v => [v]) (h e rfl)

/-- Each variable is rejected for its own value, and once. -/
lemma rejected_eq (lookup : Lookup) :
    lookup.rejected = [.exitCode, .abort].filter fun v => !v.accepts (lookup v) := by
  have hexit : (orElseReport defaultExitCode (readExitCode (lookup .exitCode))).2.map
      Error.culprit = if Variable.exitCode.accepts (lookup .exitCode) then [] else [.exitCode] :=
    map_culprit_orElseReport _ fun _ => culprit_of_readExitCode
  have habort : ∀ code, (orElseReport (.exit code) (readPolicy code (lookup .abort))).2.map
      Error.culprit = if Variable.abort.accepts (lookup .abort) then [] else [.abort] := by
    intro code
    rw [Variable.accepts, isOk_readPolicy defaultExitCode code]
    exact map_culprit_orElseReport _ fun _ => culprit_of_readPolicy
  rw [Lookup.rejected, loadLenient, List.map_append, hexit, habort]
  cases hx : Variable.exitCode.accepts (lookup .exitCode) <;>
    cases ha : Variable.abort.accepts (lookup .abort) <;> simp [hx, ha]

lemma mem_rejected {lookup : Lookup} {v : Variable} :
    v ∈ lookup.rejected ↔ v.accepts (lookup v) = false := by
  rw [rejected_eq]
  cases v with
  | log => simp [Variable.accepts]
  | _ => simp

lemma unset_rejected (lookup : Lookup) (v : Variable) :
    lookup.unset lookup.rejected v = if v.accepts (lookup v) then lookup v else none := by
  rw [Lookup.unset]
  cases h : v.accepts (lookup v) with
  | true => rw [if_neg (by simp [mem_rejected, h]), if_pos rfl]
  | false => rw [if_pos (mem_rejected.2 h), if_neg (by simp)]

/-! ## Both ways step by step -/

variable {lookup : Lookup}

/-- Once both values are read, nothing more can go wrong. -/
lemma load_of_ok (hcode : readExitCode (lookup .exitCode) = .ok code)
    (hpolicy : readPolicy code (lookup .abort) = .ok policy) :
    load lookup = .ok ⟨policy, lookup .log⟩ := by
  have hvalid : validate ⟨policy, lookup .log⟩ = .ok () :=
    validate_of_policy (readExitCode_isFailureCode hcode) (readPolicy_eq_ok hpolicy)
  simp only [load, hcode, hpolicy, hvalid, bind, Except.bind]
  rfl

lemma load_of_error (h : readExitCode (lookup .exitCode) = .error e) : load lookup = .error e := by
  simp only [load, h, bind, Except.bind]

lemma load_of_ok_of_error (hcode : readExitCode (lookup .exitCode) = .ok code)
    (hpolicy : readPolicy code (lookup .abort) = .error e) : load lookup = .error e := by
  simp only [load, hcode, hpolicy, bind, Except.bind]

/-- Strict loading is lenient loading that fails with the first error, if there is one. -/
lemma load_eq (lookup : Lookup) :
    load lookup =
      match (loadLenient lookup).2 with
      | [] => .ok (loadLenient lookup).1
      | e :: _ => .error e := by
  cases hcode : readExitCode (lookup .exitCode) with
  | error e =>
    rw [load_of_error hcode]
    simp only [loadLenient, hcode, orElseReport, List.cons_append]
  | ok code =>
    cases hpolicy : readPolicy code (lookup .abort) with
    | error e =>
      rw [load_of_ok_of_error hcode hpolicy]
      simp only [loadLenient, hcode, hpolicy, orElseReport, List.nil_append]
    | ok policy =>
      rw [load_of_ok hcode hpolicy]
      simp only [loadLenient, hcode, hpolicy, orElseReport, List.nil_append]

/-! ## Loading without the rejected values -/

lemma readExitCode_if_isOk (value : Option String) :
    readExitCode (if (readExitCode value).isOk then value else none) =
      .ok (orElseReport defaultExitCode (readExitCode value)).1 := by
  cases h : readExitCode value with
  | ok code => exact h
  | error e => rfl

lemma readPolicy_if_isOk (code : Int32) (value : Option String) :
    readPolicy code (if (readPolicy code value).isOk then value else none) =
      .ok (orElseReport (.exit code) (readPolicy code value)).1 := by
  cases h : readPolicy code value with
  | ok policy => exact h
  | error e => rfl

lemma load_unset (lookup : Lookup) :
    load (lookup.unset lookup.rejected) = .ok (loadLenient lookup).1 := by
  -- what is left of each value is read as lenient loading has read the whole of it
  have hexit : readExitCode (lookup.unset lookup.rejected .exitCode) =
      .ok (orElseReport defaultExitCode (readExitCode (lookup .exitCode))).1 := by
    rw [unset_rejected]
    exact readExitCode_if_isOk (lookup .exitCode)
  have habort : ∀ code, readPolicy code (lookup.unset lookup.rejected .abort) =
      .ok (orElseReport (.exit code) (readPolicy code (lookup .abort))).1 := by
    intro code
    rw [unset_rejected, Variable.accepts, isOk_readPolicy defaultExitCode code]
    exact readPolicy_if_isOk code (lookup .abort)
  have hlog : lookup.unset lookup.rejected .log = lookup .log := unset_rejected lookup .log
  rw [load_of_ok hexit (habort _), hlog]
  rfl

/-- The two ways of loading agree.  Strict loading succeeds exactly if lenient loading rejects
nothing, and then both load the same; it fails exactly with the first error of lenient loading; and
what lenient loading makes of an environment is what strict loading makes of it without the rejected
values. -/
theorem load_agrees_loadLenient (lookup : Lookup) :
    (∀ s, load lookup = .ok s ↔ (loadLenient lookup).2 = [] ∧ (loadLenient lookup).1 = s) ∧
    (∀ e, load lookup = .error e ↔ (loadLenient lookup).2.head? = some e) ∧
    load (lookup.unset lookup.rejected) = .ok (loadLenient lookup).1 := by
  refine ⟨?_, ?_, load_unset lookup⟩
  · intro s
    rw [load_eq]
    cases (loadLenient lookup).2 with
    | nil => simp
    | cons e es => simp
  · intro e
    rw [load_eq]
    cases (loadLenient lookup).2 with
    | nil => simp
    | cons e' es => simp

end RuntimeSupport.Settings

import RuntimeSupport.Proofs.Program.Run
import RuntimeSupport.Proofs.Settings.Loading

/-!
# Fatal ends

A process that reaches the fatal path ends as its settings demand, and no settings that can be
loaded demand an ending that reads as success.  The main statement is `fatal_run_fails`.
-/

namespace RuntimeSupport

/-- Whether whoever waits for a process learns that it has failed. -/
def Ending.Fails : Ending → Prop
  | .exited status => status ≠ 0
  | .aborted => True

/-! ## Valid settings -/

namespace Settings

variable {code : Int32} {s : Settings}

-- The low 8 bits of a code from 1 to 255 are the code itself.
lemma IsFailureCode.status_ne_zero (h : IsFailureCode code) : code.toUInt32.toUInt8 ≠ 0 := by
  obtain ⟨hlow, hhigh⟩ := h
  rw [Int32.le_iff_toInt_le] at hlow hhigh
  have hcode : code.toInt = if 2 * code.toUInt32.toNat < 2 ^ 32 then (code.toUInt32.toNat : Int)
      else code.toUInt32.toNat - (2 ^ 32 : Nat) := BitVec.toInt_eq_toNat_cond code.toBitVec
  have hlt := code.toUInt32.toNat_lt
  intro hzero
  have hstatus : code.toUInt32.toNat % 256 = 0 := by
    simpa using congrArg UInt8.toNat hzero
  simp only [Int32.reduceToInt] at hlow hhigh
  split at hcode <;> omega

/-- Settings that are valid let no fatal error read as success. -/
lemma fails_of_validate (h : s.validate = .ok ()) : (Ending.ofPolicy s.abort).Fails := by
  unfold validate at h
  split at h
  · next hpolicy =>
    rw [hpolicy]
    trivial
  · next code hpolicy =>
    rw [hpolicy]
    split at h
    · next hcode => exact hcode.status_ne_zero
    · cases h

end Settings

/-! ## Runs that reach the fatal path -/

namespace Program

variable {p q : Program} {steps : List Step}

/-- Whether some step reaches the fatal path: those before it all come back, and it has last words.
-/
def ReachesFatal (p : Program) (steps : List Step) : Prop :=
  ∃ before s rest q words, steps = before ++ s :: rest ∧ p.after? before = some q ∧
    s.lastWords? q = some words

lemma ReachesFatal.ending_eq (h : p.ReachesFatal steps) :
    (p.run steps).ending = .ofPolicy p.effective.abort := by
  obtain ⟨before, s, rest, q, words, rfl, hbefore, hwords⟩ := h
  obtain ⟨q', hfatal⟩ := perform_fatal hwords
  rw [(run_append hbefore).1, run, hfatal, effective_after? hbefore]

end Program

open Program

/-- A process that reaches the fatal path never ends in a way that reads as success, whatever its
environment holds; and settings are valid however they have been loaded. -/
theorem fatal_run_fails :
    (∀ (platform : Platform) (env : Environment) (args : List Bytes) (device : Device)
        (steps : List Step),
      (start platform env args device).ReachesFatal steps →
        ((start platform env args device).run steps).ending.Fails) ∧
    (∀ lookup : Settings.Lookup, (Settings.loadLenient lookup).1.validate = .ok ()) ∧
    ∀ (lookup : Settings.Lookup) (s : Settings),
      Settings.load lookup = .ok s → s.validate = .ok () := by
  refine ⟨?_, Settings.validate_loadLenient, fun _ _ => Settings.validate_load⟩
  intro platform env args device steps hfatal
  -- nothing has been loaded yet, so the settings are those that the environment asks for
  have hsettings :
      (start platform env args device).effective = (Settings.loadLenient env.lookup).1 := rfl
  rw [hfatal.ending_eq, hsettings]
  exact Settings.fails_of_validate (Settings.validate_loadLenient env.lookup)

/-- An exit code that would wrap to zero, an argument that is asked for too early, and settings that
are loaded strictly. -/
theorem fatal_run_fails_wrapping_code :
    ((start .standard (.ofAssignments [("AURT_EXIT_CODE", Text.Utf8.encode "256")]) [] .working).run
        [.print [0x61], .argument 0, .print [0x62]]).ending.Fails ∧
      Settings.default.validate = .ok () := by
  constructor
  · refine fatal_run_fails.1 .standard _ [] .working _ ?_
    exact ⟨[.print [0x61]], .argument 0, [.print [0x62]], _, _, rfl, rfl, rfl⟩
  · exact fatal_run_fails.2.2 (fun _ => none) Settings.default rfl

end RuntimeSupport

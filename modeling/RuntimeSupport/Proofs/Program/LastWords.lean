import RuntimeSupport.Proofs.Fault
import RuntimeSupport.Proofs.Program.Collapse

/-!
# Last words tell which fault has ended a process

A fault that ends a process is told to standard error by its message and in no other way.  As long
as nothing is logged, standard error shows nothing besides, so two processes that a fault ends in
the same state show the same only if it was the same fault: `message_identifies`.
-/

namespace RuntimeSupport

/-- Two faults have the same message only if they are the same fault; and wherever either ends a
process that logs nothing, what is left on standard error is the same only then. -/
theorem message_identifies (f₁ f₂ : Fault) :
    (f₁.message = f₂.message ↔ f₁ = f₂) ∧
      ∀ p : Program, p.Muted → ∃ ending q₁ q₂,
        (Action.abortWith f₁ : Action Unit) p = .error ending q₁ ∧
        (Action.abortWith f₂ : Action Unit) p = .error ending q₂ ∧
        (q₁.errors = q₂.errors ↔ f₁ = f₂) := by
  have hmessage : f₁.message = f₂.message ↔ f₁ = f₂ := Fault.message_injective.eq_iff
  refine ⟨hmessage, fun p hp => ?_⟩
  refine ⟨_, _, _, hp.abort f₁.words, hp.abort f₂.words, ?_⟩
  simp only [List.append_right_inj, List.append_left_inj]
  exact Text.Utf8.encode_injective.eq_iff.trans hmessage

/-- A line feed and the two characters that it is shown as are told apart. -/
theorem message_identifies_escaped :
    (Program.start .standard .empty [] .working).Muted ∧
      ∃ ending q₁ q₂,
        (Action.abortWith (.settings (.invalidExitCode "\n")) : Action Unit)
          (.start .standard .empty [] .working) = .error ending q₁ ∧
        (Action.abortWith (.settings (.invalidExitCode "\\n")) : Action Unit)
          (.start .standard .empty [] .working) = .error ending q₂ ∧
        q₁.errors ≠ q₂.errors := by
  have hmuted : (Program.start .standard .empty [] .working).Muted :=
    Program.muted_start (Environment.muted_of_off Log.Logger.sets_standard_off (.inl rfl))
  have hne : Fault.settings (.invalidExitCode "\n") ≠ .settings (.invalidExitCode "\\n") := by
    decide
  obtain ⟨-, hends⟩ := message_identifies (.settings (.invalidExitCode "\n"))
    (.settings (.invalidExitCode "\\n"))
  obtain ⟨ending, q₁, q₂, h₁, h₂, herrors⟩ := hends _ hmuted
  exact ⟨hmuted, ending, q₁, q₂, h₁, h₂, fun h => hne (herrors.1 h)⟩

end RuntimeSupport

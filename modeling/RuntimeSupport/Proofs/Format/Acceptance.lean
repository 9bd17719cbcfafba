import RuntimeSupport.Proofs.Format.Emission
import RuntimeSupport.Proofs.Format.Supply

/-!
# Which formats are accepted

A call succeeds exactly if its format is one of the grammar, its arguments are those that the format
asks for, and what it writes fits a buffer.  Each of the three is decided at another place: the
grammar when the format is split into segments (`template_iff_segments`), the arguments on the walk
along the segments (`render_iff`), and the room when the fields are written (`emit_eq_none_iff`).
-/

namespace RuntimeSupport

open Format

namespace Format

/-- Whether what a call writes, up to its end or to the directive at fault, fits a buffer. -/
def Fits (fmt : Bytes) (args : List Argument) : Prop :=
  totalLength (rendering fmt args).fields ≤ maxLength

lemma rendering_iff (fmt : Bytes) (args : List Argument) :
    (rendering fmt args).stop = .ok () ↔
      ∃ ds, Template fmt ds ∧ List.Forall₂ Demand.MetBy ds args := by
  simp only [rendering, render_iff, template_iff_segments 0]
  constructor
  · rintro ⟨hc, hmet⟩
    exact ⟨_, ⟨hc, rfl⟩, hmet⟩
  · rintro ⟨ds, ⟨hc, rfl⟩, hmet⟩
    exact ⟨hc, hmet⟩

end Format

/-- A format is accepted with its arguments exactly if it is one of the grammar, the arguments are
those that it asks for, in order and with nothing left over, and the output fits a buffer. -/
theorem format_isOk_iff (fmt : Bytes) (args : List Argument) :
    (∃ out, format fmt args = .ok out) ↔
      (∃ ds, Template fmt ds ∧ List.Forall₂ Demand.MetBy ds args) ∧ Fits fmt args := by
  have hformat : (∃ out, format fmt args = .ok out) ↔
      ∃ out n, formatInto [] fmt args = (out, .ok n) := by
    unfold format
    rcases formatInto [] fmt args with ⟨bs, f | n⟩
    · simp
    · simp
  have hfits : (emit 0 (rendering fmt args).fields).2 = none ↔ Fits fmt args := by
    rw [emit_eq_none_iff (Nat.zero_le _), Nat.zero_add, Fits]
  -- what is left is that a call succeeds if both the walk and the writing do
  rw [hformat, ← rendering_iff, ← hfits]
  simp only [formatInto_eq_ok_iff, List.length_nil]
  constructor
  · rintro ⟨out, n, hstop, hemit, -, -⟩
    exact ⟨hstop, hemit⟩
  · rintro ⟨hstop, hemit⟩
    exact ⟨_, _, hstop, hemit, rfl, rfl⟩

end RuntimeSupport

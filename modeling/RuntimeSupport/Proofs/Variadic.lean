import Mathlib.Tactic.Lemma
import RuntimeSupport.Proofs.Format.Emission
import RuntimeSupport.Variadic

/-!
# Hosts that render

A host may render as it likes.  All that a variadic call needs is that a buffer receives as much of
the rendering as it has room for, with a final NUL behind it (`Host.Renders`).  The host of this
library does so (`Host.renders_own`).
-/

namespace RuntimeSupport.Variadic

variable {Arguments : Type} {host : Host Arguments} {fmt rendering : Bytes} {args : Arguments}

/-- What a host does with a format that it renders: it answers the length of the rendering, and a
buffer receives the rendering, cut where a final NUL has to follow it. -/
structure Host.Renders (host : Host Arguments) (fmt : Bytes) (args : Arguments)
    (rendering : Bytes) : Prop where
  length : ∀ size, (host.format size fmt args).1.toInt = rendering.length
  stored : ∀ size, 0 < size → rendering.take (size - 1) ++ [0] <+: (host.format size fmt args).2

/-- A buffer that has room for the rendering and a final NUL holds all of it. -/
lemma Host.Renders.take_eq (h : host.Renders fmt args rendering) {size : Nat}
    (hsize : rendering.length < size) :
    (host.format size fmt args).2.take rendering.length = rendering := by
  obtain ⟨rest, hrest⟩ := h.stored size (by omega)
  rw [← hrest, List.take_of_length_le (i := size - 1) (by omega), List.append_assoc,
    List.take_left]

lemma Host.Renders.not_lt_zero (h : host.Renders fmt args rendering) (size : Nat) :
    ¬(host.format size fmt args).1 < 0 := by
  rw [Int32.lt_iff_toInt_lt, h.length size]
  exact Int.not_lt.2 (Int.natCast_nonneg _)

/-! ## The host of this library -/

lemma Host.allocate_own_ne_zero (size : Nat) : Host.own.allocate size ≠ 0 := by
  rw [Host.own]
  simp only
  decide

/-- A rendering is not longer than a call can express. -/
lemma length_le_of_render {args : List Argument} (h : render fmt args = some rendering) :
    rendering.length ≤ maxInt := by
  obtain ⟨fields, -, h⟩ := Option.bind_eq_some_iff.1 h
  obtain ⟨hle, h⟩ := Option.ite_none_right_eq_some.1 h
  cases h
  rw [← List.sum_eq_foldr] at hle
  rw [List.length_flatMap]
  simpa only [Format.Piece.length_bytes] using hle

lemma Host.renders_own {args : List Argument} (h : render (untilNul fmt) args = some rendering) :
    Host.own.Renders fmt args rendering where
  length size := by
    have hle : rendering.length ≤ 0x7FFF_FFFF := length_le_of_render h
    rw [Host.own]
    simp only [h]
    exact Int32.toInt_ofNat_of_lt (by omega)
  stored size _ := by
    rw [Host.own]
    simp only [h]
    exact List.prefix_rfl

end RuntimeSupport.Variadic

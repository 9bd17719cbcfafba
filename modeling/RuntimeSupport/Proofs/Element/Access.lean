import Mathlib.Algebra.GroupWithZero.Nat
import RuntimeSupport.Program.Memory
import RuntimeSupport.Proofs.Element.Range

/-!
# Access to elements

There are four ways to an element of a buffer: an address by way of a view, an address by a call of
a compiled program, a read by way of a span, and a write by way of a span.  The main statement is
`element_access_exact`: they are open to the same elements, those that lie inside the buffer by
exact numbers, and lead to the same bytes.
-/

namespace RuntimeSupport

namespace Element

/-- The range of an element as exact numbers have it, for all words. -/
structure ExactRange (size index elemSize : UInt64) : Prop where
  /-- An element is found exactly if it fits. -/
  isOk_iff : (∃ r, range size index elemSize = .ok r) ↔
    0 < elemSize.toNat ∧ (index.toNat + 1) * elemSize.toNat ≤ size.toNat
  /-- An element lies between the one before it and the one after it. -/
  bounds : ∀ r, range size index elemSize = .ok r →
    r.start.toNat = index.toNat * elemSize.toNat ∧
      r.stop.toNat = (index.toNat + 1) * elemSize.toNat
  /-- Elements without size are a fault of their own. -/
  zero_iff : range size index elemSize = .error .zeroElementSize ↔ elemSize = 0
  /-- Any other fault tells all that the decision depends on. -/
  outOfBounds : ∀ f, elemSize ≠ 0 → range size index elemSize = .error f →
    f = .indexOutOfBounds index elemSize size

lemma exactRange (size index elemSize : UInt64) : ExactRange size index elemSize where
  isOk_iff := isOk_range_iff
  bounds r hr := (range_eq_ok_iff.1 hr).2
  zero_iff := by
    rw [range_eq_error_iff]
    constructor
    · rintro ⟨-, hzero⟩
      exact fault_eq_zeroElementSize_iff.1 hzero.symm
    · intro hzero
      exact ⟨fun h => h.ne_zero hzero, (fault_eq_zeroElementSize_iff.2 hzero).symm⟩
  outOfBounds f hne hr := by
    obtain ⟨-, hf⟩ := range_eq_error_iff.1 hr
    rw [hf, fault, if_neg hne]

/-- The four ways to an element of a buffer, of which the view is the address and the size. -/
structure Access (bs : Bytes) (v : View) (index elemSize : UInt64) : Prop where
  /-- An element that fits lies inside the buffer. -/
  inside : Fits v.size index elemSize →
    position index elemSize + elemSize.toNat ≤ bs.length
  /-- A view finds the address of an element. -/
  view : Fits v.size index elemSize →
    v.index index elemSize = .ok (v.address + UInt64.ofNat (position index elemSize))
  /-- A call finds the same address, and changes nothing. -/
  call : Fits v.size index elemSize → ∀ p,
    Action.index v index elemSize p =
      .ok (v.address + UInt64.ofNat (position index elemSize)) p
  /-- A span reads the bytes that are there. -/
  read : Fits v.size index elemSize →
    (⟨bs⟩ : Span).element index elemSize =
      .ok (Region.read bs (position index elemSize) elemSize.toNat)
  /-- A span writes to the bytes that are there, and to no others. -/
  write : Fits v.size index elemSize → ∀ new,
    (⟨bs⟩ : Span).writeElement index elemSize new =
      .ok ⟨Region.write bs (position index elemSize) (new.take elemSize.toNat)⟩
  /-- An element that does not fit is refused on each way, for the same reason. -/
  refused : ¬Fits v.size index elemSize →
    v.index index elemSize = .error (fault v.size index elemSize) ∧
      (∀ p, Action.index v index elemSize p =
        Action.abortWith (fault v.size index elemSize) p) ∧
      (⟨bs⟩ : Span).element index elemSize = .error (fault v.size index elemSize) ∧
      ∀ new, (⟨bs⟩ : Span).writeElement index elemSize new =
        .error (fault v.size index elemSize)
  /-- If the buffer ends where addresses end, or before, an element starts and ends inside it, and
  no address wraps. -/
  noWrap : ∀ a, v.index index elemSize = .ok a → v.address.toNat + v.size.toNat ≤ 2 ^ 64 →
    a.toNat = v.address.toNat + position index elemSize ∧
      v.address.toNat ≤ a.toNat ∧ a.toNat + elemSize.toNat ≤ v.address.toNat + v.size.toNat

end Element

open Element

variable {bs : Bytes} {v : View} {index elemSize : UInt64}

lemma Span.size_eq (h : v.size.toNat = bs.length) : (⟨bs⟩ : Span).size = v.size := by
  have hlt := v.size.toNat_lt
  show Word.ofLength bs = v.size
  rw [← UInt64.toNat_inj, Word.toNat_ofLength]
  omega

lemma View.index_of_fits (h : Fits v.size index elemSize) :
    v.index index elemSize = .ok (v.address + UInt64.ofNat (position index elemSize)) := by
  obtain ⟨r, hr, hstart, -⟩ := range_of_fits h
  rw [View.index, View.offset, hr, ← hstart, UInt64.ofNat_toNat]
  rfl

lemma View.index_of_not_fits (h : ¬Fits v.size index elemSize) :
    v.index index elemSize = .error (fault v.size index elemSize) := by
  rw [View.index, View.offset, range_of_not_fits h]
  rfl

/-- The distance of an address from the start of a view, when the address is that of an element. -/
lemma View.index_eq_ok {a : UInt64} (h : v.index index elemSize = .ok a) :
    Fits v.size index elemSize ∧ a - v.address = UInt64.ofNat (position index elemSize) ∧
      (a - v.address).toNat = position index elemSize := by
  by_cases hf : Fits v.size index elemSize
  · rw [View.index_of_fits hf, Except.ok.injEq] at h
    have hdistance : a - v.address = UInt64.ofNat (position index elemSize) := by
      rw [← h, UInt64.add_comm, UInt64.add_sub_cancel]
    refine ⟨hf, hdistance, ?_⟩
    rw [hdistance, hf.toNat_position]
  · rw [View.index_of_not_fits hf] at h
    cases h

section

variable {s : Span}

lemma Span.size_le (s : Span) : s.size.toNat ≤ s.bytes.length := by
  rw [Span.size, Word.toNat_ofLength]
  exact Nat.min_le_left _ _

lemma Span.element_of_fits (h : Fits s.size index elemSize) :
    s.element index elemSize =
      .ok (Region.read s.bytes (position index elemSize) elemSize.toNat) := by
  obtain ⟨r, hr, hstart, -⟩ := range_of_fits h
  rw [Span.element, hr, ← hstart]
  rfl

lemma Span.element_of_not_fits (h : ¬Fits s.size index elemSize) :
    s.element index elemSize = .error (fault s.size index elemSize) := by
  rw [Span.element, range_of_not_fits h]
  rfl

lemma Span.writeElement_of_fits (h : Fits s.size index elemSize) (new : Bytes) :
    s.writeElement index elemSize new =
      .ok ⟨Region.write s.bytes (position index elemSize) (new.take elemSize.toNat)⟩ := by
  obtain ⟨r, hr, hstart, -⟩ := range_of_fits h
  rw [Span.writeElement, hr, ← hstart]
  rfl

lemma Span.writeElement_of_not_fits (h : ¬Fits s.size index elemSize) (new : Bytes) :
    s.writeElement index elemSize new = .error (fault s.size index elemSize) := by
  rw [Span.writeElement, range_of_not_fits h]
  rfl

end

/-- Every way to an element asks the same question, so all are open to the same elements. -/
lemma Element.access (h : v.size.toNat = bs.length) (index elemSize : UInt64) :
    Access bs v index elemSize where
  inside hf := h ▸ hf.position_add_le
  view hf := View.index_of_fits hf
  call hf p := by
    rw [Action.index, View.index_of_fits hf]
    rfl
  read hf := by
    rw [← Span.size_eq h] at hf
    exact Span.element_of_fits hf
  write hf new := by
    rw [← Span.size_eq h] at hf
    exact Span.writeElement_of_fits hf new
  refused hf := by
    have hspan : ¬Fits (⟨bs⟩ : Span).size index elemSize := by
      rw [Span.size_eq h]
      exact hf
    refine ⟨View.index_of_not_fits hf, ?_, ?_, ?_⟩
    · intro p
      rw [Action.index, View.index_of_not_fits hf]
      rfl
    · rw [← Span.size_eq h]
      exact Span.element_of_not_fits hspan
    · intro new
      rw [← Span.size_eq h]
      exact Span.writeElement_of_not_fits hspan new
  noWrap a ha hend := by
    by_cases hf : Fits v.size index elemSize
    case neg => simp [View.index_of_not_fits hf] at ha
    have hle := hf.position_add_le
    have hpos := hf.1
    rw [View.index_of_fits hf, Except.ok.injEq] at ha
    -- the element has a byte, so it starts before addresses end
    have haddr : a.toNat = v.address.toNat + position index elemSize := by
      rw [← ha, UInt64.toNat_add, UInt64.toNat_ofNat']
      omega
    exact ⟨haddr, by omega, by omega⟩

/-- Whether an element is found, and where, is decided by exact numbers, and all four ways to an
element of a buffer agree with them. -/
theorem element_access_exact :
    (∀ size index elemSize, ExactRange size index elemSize) ∧
      ∀ (bs : Bytes) (v : View) (index elemSize : UInt64), v.size.toNat = bs.length →
        Access bs v index elemSize :=
  ⟨exactRange, fun _ _ index elemSize h => access h index elemSize⟩

/-- The last element of a buffer at the very end of memory. -/
theorem element_access_exact_at_end :
    (⟨0xFFFF_FFFF_FFFF_FFF4, 12⟩ : View).size.toNat = (List.replicate 12 (7 : UInt8)).length ∧
      Access (List.replicate 12 7) ⟨0xFFFF_FFFF_FFFF_FFF4, 12⟩ 2 4 :=
  ⟨by decide, element_access_exact.2 _ _ 2 4 (by decide)⟩

end RuntimeSupport

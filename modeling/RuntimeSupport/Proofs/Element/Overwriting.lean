import RuntimeSupport.Proofs.Element.Access

/-!
# Elements that are written and read again

The same bytes can be taken for elements of any size, so an element that is read may overlap one
that has been written before, in part or as a whole.  It has the new bytes exactly where they have
been written and its old ones everywhere else (`Span.written`).  All that is needed is what reading
a region of a sequence says about its single bytes (`Region.getElem?_read`), as writing is described
by them already.
-/

namespace RuntimeSupport

open Element

/-! ## Regions -/

namespace Region

variable {bs new : Bytes} {offset count i : Nat}

lemma getElem?_read (hi : i < count) : (read bs offset count)[i]? = bs[offset + i]? := by
  rw [read, List.getElem?_take_of_lt hi, List.getElem?_drop]

lemma length_read (h : offset + count ≤ bs.length) : (read bs offset count).length = count := by
  rw [read, List.length_take, List.length_drop]
  omega

/-- A region reads as the bytes that are found in it one by one. -/
lemma read_eq {out : Bytes} (h : offset + count ≤ bs.length) (hout : out.length = count)
    (hbytes : ∀ i < count, bs[offset + i]? = out[i]?) : read bs offset count = out := by
  have hread := length_read h
  refine List.ext_getElem? fun i => ?_
  by_cases hi : i < count
  · rw [getElem?_read hi, hbytes i hi]
  · rw [List.getElem?_eq_none (by omega), List.getElem?_eq_none (by omega)]

end Region

/-! ## Writing to an element -/

/-- A buffer after bytes have been written to the start of an element of it. -/
structure Span.Written (s : Span) (index elemSize : UInt64) (w : Bytes) (t : Span) : Prop where
  /-- It keeps its length. -/
  length : t.bytes.length = s.bytes.length
  /-- The bytes are where the element starts. -/
  inside : ∀ k < w.length, t.bytes[position index elemSize + k]? = w[k]?
  /-- Everything else is as before. -/
  outside : ∀ k, k < position index elemSize ∨ position index elemSize + w.length ≤ k →
    t.bytes[k]? = s.bytes[k]?
  /-- An element of any size is refused as before. -/
  refused_iff : ∀ j f fault, t.element j f = .error fault ↔ s.element j f = .error fault
  /-- Or it is found as before, and has the new bytes where it overlaps those that were written. -/
  reread : ∀ j f old, s.element j f = .ok old → ∃ new, t.element j f = .ok new ∧
    old.length = f.toNat ∧ new.length = f.toNat ∧ ∀ k < f.toNat, new[k]? =
      if position index elemSize ≤ position j f + k ∧
          position j f + k < position index elemSize + w.length then
        w[position j f + k - position index elemSize]?
      else old[k]?
  /-- The element itself is what has been written, if that is as long. -/
  same : w.length = elemSize.toNat → t.element index elemSize = .ok w
  /-- Another element of the same size is as before. -/
  other : ∀ j ≠ index, t.element j elemSize = s.element j elemSize

variable {s t : Span} {index elemSize j f : UInt64} {w : Bytes}

/-- Elements of one size with different numbers share no byte. -/
lemma Element.position_apart (elemSize : UInt64) (h : j ≠ index) :
    position j elemSize + elemSize.toNat ≤ position index elemSize ∨
      position index elemSize + elemSize.toNat ≤ position j elemSize := by
  have hne : j.toNat ≠ index.toNat := fun heq => h (UInt64.toNat_inj.1 heq)
  rw [← succ_mul_eq, ← succ_mul_eq]
  rcases Nat.lt_or_gt_of_ne hne with hlt | hgt
  · exact .inl (Nat.mul_le_mul_right _ hlt)
  · exact .inr (Nat.mul_le_mul_right _ hgt)

lemma Span.size_congr (h : t.bytes.length = s.bytes.length) : t.size = s.size := by
  rw [Span.size, Span.size, Word.ofLength, Word.ofLength, h]

lemma Span.element_eq_ok {bs : Bytes} (h : s.element j f = .ok bs) :
    Fits s.size j f ∧ bs = Region.read s.bytes (position j f) f.toNat := by
  by_cases hf : Fits s.size j f
  · rw [Span.element_of_fits hf] at h
    cases h
    exact ⟨hf, rfl⟩
  · rw [Span.element_of_not_fits hf] at h
    cases h

lemma Span.inside_of_fits (hf : Fits s.size j f) : position j f + f.toNat ≤ s.bytes.length :=
  Nat.le_trans hf.position_add_le s.size_le

/-- A buffer of the same length in which the bytes are where an element starts, and which is as
before everywhere else, is all that the laws need. -/
lemma Span.written (hf : Fits s.size index elemSize) (hw : w.length ≤ elemSize.toNat)
    (hlength : t.bytes.length = s.bytes.length)
    (hbyte : ∀ k, t.bytes[k]? =
      if position index elemSize ≤ k ∧ k < position index elemSize + w.length then
        w[k - position index elemSize]?
      else s.bytes[k]?) : s.Written index elemSize w t := by
  have hsize : t.size = s.size := size_congr hlength
  have hread : ∀ {j f}, Fits s.size j f →
      t.element j f = .ok (Region.read t.bytes (position j f) f.toNat) :=
    fun hj => element_of_fits (hsize ▸ hj)
  have hinside : ∀ {j f}, Fits s.size j f → position j f + f.toNat ≤ t.bytes.length :=
    fun hj => hlength ▸ inside_of_fits hj
  constructor
  case length => exact hlength
  case inside =>
    intro k hk
    rw [hbyte, if_pos (by omega), Nat.add_sub_cancel_left]
  case outside =>
    intro k hk
    rw [hbyte, if_neg (by omega)]
  case refused_iff =>
    intro j f fault
    by_cases hj : Fits s.size j f
    · rw [hread hj, element_of_fits hj]
      exact iff_of_false nofun nofun
    · rw [element_of_not_fits hj, element_of_not_fits (hsize ▸ hj), hsize]
  case reread =>
    intro j f old hold
    obtain ⟨hj, rfl⟩ := element_eq_ok hold
    refine
      ⟨_, hread hj, Region.length_read (inside_of_fits hj), Region.length_read (hinside hj), ?_⟩
    intro k hk
    rw [Region.getElem?_read hk, Region.getElem?_read hk, hbyte]
  case same =>
    intro hwhole
    rw [hread hf, Region.read_eq (hinside hf) hwhole]
    intro k hk
    rw [hbyte, if_pos (by omega), Nat.add_sub_cancel_left]
  case other =>
    intro j hj
    by_cases hfits : Fits s.size j elemSize
    · -- no byte of the other element has been written
      have hapart := position_apart elemSize hj
      rw [hread hfits, element_of_fits hfits, Region.read_eq (hinside hfits)]
      · exact Region.length_read (inside_of_fits hfits)
      · intro k hk
        rw [hbyte, if_neg (by omega), Region.getElem?_read hk]
    · rw [element_of_not_fits hfits, element_of_not_fits (hsize ▸ hfits), hsize]

/-- A write that succeeds is one to an element that fits, and leaves the buffer with those bytes. -/
lemma Span.writeElement_eq_ok (hw : w.length ≤ elemSize.toNat)
    (h : s.writeElement index elemSize w = .ok t) :
    Fits s.size index elemSize ∧ t = ⟨Region.write s.bytes (position index elemSize) w⟩ := by
  by_cases hf : Fits s.size index elemSize
  · rw [writeElement_of_fits hf, List.take_of_length_le hw] at h
    cases h
    exact ⟨hf, rfl⟩
  · rw [writeElement_of_not_fits hf] at h
    cases h

lemma Span.written_of_writeElement (hw : w.length ≤ elemSize.toNat)
    (h : s.writeElement index elemSize w = .ok t) : s.Written index elemSize w t := by
  obtain ⟨hf, rfl⟩ := writeElement_eq_ok hw h
  have hroom : position index elemSize + w.length ≤ s.bytes.length :=
    Nat.le_trans (Nat.add_le_add_left hw _) (inside_of_fits hf)
  exact written hf hw (Region.length_write hroom) (Region.getElem?_write hroom)

end RuntimeSupport

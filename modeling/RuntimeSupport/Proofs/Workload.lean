import Mathlib.Data.List.Nodup
import RuntimeSupport.Proofs.Element.Tiling
import RuntimeSupport.Workload

/-!
# What a sweep visits

A sweep takes the number of elements of each size from a division (`visits`), and an access is
allowed by a multiplication.  The two agree, so a sweep visits every access that is allowed with one
of its sizes, and each of them once; the main statement is `indexSweep_exact`.
-/

namespace RuntimeSupport.Workload

/-- The accesses with one element size, in the order in which a sweep visits them. -/
def visits (length size : UInt64) : List (UInt64 × UInt64) :=
  (List.range (length / size).toNat).map fun i => (UInt64.ofNat i, size)

variable {length index size : UInt64} {a : UInt64 × UInt64}

lemma indexSweep_eq (length : UInt64) :
    indexSweep length = sweptSizes.flatMap (visits length) := rfl

/-! ## One size -/

/-- The number of an element is a word. -/
lemma toNat_ofNat_of_lt_div {i : Nat} (h : i < (length / size).toNat) :
    (UInt64.ofNat i).toNat = i :=
  UInt64.toNat_ofNat_of_lt' (Nat.lt_trans h (length / size).toNat_lt)

lemma snd_of_mem_visits (h : a ∈ visits length size) : a.2 = size := by
  obtain ⟨i, -, rfl⟩ := List.mem_map.1 h
  rfl

lemma map_visits (length size : UInt64) :
    (visits length size).map (fun a => a.1.toNat) = List.range (length / size).toNat := by
  rw [visits, List.map_map]
  refine (List.map_congr_left fun i hi => ?_).trans (List.map_id _)
  exact toNat_ofNat_of_lt_div (List.mem_range.1 hi)

lemma nodup_visits (length size : UInt64) : (visits length size).Nodup :=
  .of_map (fun a => a.1.toNat) (map_visits length size ▸ List.nodup_range)

lemma mem_visits_iff : (index, size) ∈ visits length size ↔ index < length / size := by
  rw [visits, List.mem_map, UInt64.lt_iff_toNat_lt]
  constructor
  · rintro ⟨i, hi, hindex⟩
    have hlt := List.mem_range.1 hi
    obtain rfl : UInt64.ofNat i = index := congrArg Prod.fst hindex
    rwa [toNat_ofNat_of_lt_div hlt]
  · intro hlt
    exact ⟨index.toNat, List.mem_range.2 hlt, by rw [UInt64.ofNat_toNat]⟩

lemma filter_visits (length size size' : UInt64) :
    (visits length size).filter (fun a => a.2 = size') =
      if size = size' then visits length size else [] := by
  split
  · next h => exact List.filter_eq_self.2 fun a ha => by simp [snd_of_mem_visits ha, h]
  · next h => exact List.filter_eq_nil_iff.2 fun a ha => by simp [snd_of_mem_visits ha, h]

/-! ## All sizes -/

lemma ne_zero_of_mem_sweptSizes (h : size ∈ sweptSizes) : size ≠ 0 := by
  rintro rfl
  exact absurd h (by decide)

lemma mem_indexSweep_iff :
    (index, size) ∈ indexSweep length ↔ size ∈ sweptSizes ∧ index < length / size := by
  rw [indexSweep_eq, List.mem_flatMap, ← mem_visits_iff]
  constructor
  · rintro ⟨size', hsize', hmem⟩
    obtain rfl : size = size' := snd_of_mem_visits hmem
    exact ⟨hsize', hmem⟩
  · rintro ⟨hsize, hmem⟩
    exact ⟨size, hsize, hmem⟩

lemma nodup_indexSweep (length : UInt64) : (indexSweep length).Nodup := by
  have hsizes : sweptSizes.Nodup := by decide
  refine List.nodup_flatMap.2 ⟨fun size _ => nodup_visits length size, hsizes.imp ?_⟩
  intro size size' hne a ha ha'
  exact hne ((snd_of_mem_visits ha).symm.trans (snd_of_mem_visits ha'))

/-- Of a list without repetitions, what belongs to one member. -/
lemma flatMap_ite_eq {sizes : List UInt64} (h : sizes.Nodup) (f : UInt64 → List (UInt64 × UInt64)) :
    (sizes.flatMap fun s => if s = size then f s else []) =
      if size ∈ sizes then f size else [] := by
  induction sizes with
  | nil => rfl
  | cons s sizes ih =>
    obtain ⟨hs, hsizes⟩ := List.nodup_cons.1 h
    rw [List.flatMap_cons, ih hsizes]
    by_cases hsize : s = size
    · subst hsize
      simp [hs]
    · simp [hsize, Ne.symm hsize]

lemma filter_indexSweep (length size : UInt64) :
    (indexSweep length).filter (fun a => a.2 = size) =
      if size ∈ sweptSizes then visits length size else [] := by
  rw [indexSweep_eq, List.filter_flatMap, ← flatMap_ite_eq (by decide)]
  exact congrArg (List.flatMap · sweptSizes) (funext fun s => filter_visits length s size)

/-- A sweep visits exactly the accesses that are allowed with one of its sizes, each of them once;
and for each size the elements come one after the other, from the first one on. -/
theorem indexSweep_exact (length : UInt64) :
    (∀ index size, (index, size) ∈ indexSweep length ↔
      (size = 1 ∨ size = 4 ∨ size = 8 ∨ size = 16) ∧
        ∃ r, Element.range length index size = .ok r) ∧
    (indexSweep length).Nodup ∧
    ∀ size, ((indexSweep length).filter (fun a => a.2 = size)).map (fun a => a.1.toNat) =
      if size ∈ sweptSizes then List.range (length / size).toNat else [] := by
  have hsizes : ∀ size, size ∈ sweptSizes ↔ size = 1 ∨ size = 4 ∨ size = 8 ∨ size = 16 := by
    intro size
    simp [sweptSizes]
  refine ⟨fun index size => ?_, nodup_indexSweep length, fun size => ?_⟩
  · rw [mem_indexSweep_iff, ← hsizes, Element.isOk_range_iff]
    refine and_congr_right fun hsize => ?_
    exact (Element.fits_iff_lt (ne_zero_of_mem_sweptSizes hsize)).symm
  · rw [filter_indexSweep]
    split
    · exact map_visits length size
    · rfl

end RuntimeSupport.Workload

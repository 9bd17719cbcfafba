import Mathlib.Tactic.Lemma
import RuntimeSupport.Text.Utf8

/-!
# Strict reading of UTF-8

Strict reading undoes encoding and accepts nothing else.  A unit is a character exactly where the
bytes start with the encoding of that character (`readUnit_eq_some_iff`), which is shown for each of
the four lengths that an encoding can have.  The main statement is `decode?_eq_some_iff`.
-/

namespace RuntimeSupport.Text.Utf8

variable {c : Char} {b : UInt8} {bs rest : Bytes} {acc low high more : Nat}

/-! ## Lead bytes -/

lemma lead?_one (h : b.toNat < 0x80) : lead? b = some ⟨b.toNat, 0x80, 0xBF, 0⟩ := by
  simp only [lead?, if_pos h]

lemma lead?_two (hlow : 0xC2 ≤ b.toNat) (hhigh : b.toNat < 0xE0) :
    lead? b = some ⟨b.toNat - 0xC0, 0x80, 0xBF, 1⟩ := by
  simp only [lead?]
  rw [if_neg (by omega), if_neg (by omega), if_pos hhigh]

-- Whatever the lead byte, the bounds of the byte after it leave out the numbers that a shorter
-- encoding has, and those that are no character.

lemma lead?_three (hlow : 0xE0 ≤ b.toNat) (hhigh : b.toNat < 0xF0) :
    ∃ low high, lead? b = some ⟨b.toNat - 0xE0, low, high, 2⟩ ∧
      ∀ x, (low ≤ x ∧ x ≤ high) ↔ (0x80 ≤ x ∧ x ≤ 0xBF) ∧
        (b.toNat = 0xE0 → 0xA0 ≤ x) ∧ (b.toNat = 0xED → x ≤ 0x9F) := by
  simp only [lead?]
  rw [if_neg (by omega), if_neg (by omega), if_neg (by omega), if_pos hhigh]
  split
  · next h => exact ⟨0xA0, 0xBF, by rw [h], by omega⟩
  · split
    · next h => exact ⟨0x80, 0x9F, by rw [h], by omega⟩
    · exact ⟨0x80, 0xBF, rfl, by omega⟩

lemma lead?_four (hlow : 0xF0 ≤ b.toNat) (hhigh : b.toNat < 0xF5) :
    ∃ low high, lead? b = some ⟨b.toNat - 0xF0, low, high, 3⟩ ∧
      ∀ x, (low ≤ x ∧ x ≤ high) ↔ (0x80 ≤ x ∧ x ≤ 0xBF) ∧
        (b.toNat = 0xF0 → 0x90 ≤ x) ∧ (b.toNat = 0xF4 → x ≤ 0x8F) := by
  simp only [lead?]
  rw [if_neg (by omega), if_neg (by omega), if_neg (by omega), if_neg (by omega),
    if_neg (by omega), if_neg (by omega)]
  split
  · next h => exact ⟨0x90, 0xBF, by rw [h], by omega⟩
  · split
    · exact ⟨0x80, 0xBF, rfl, by omega⟩
    · have h : b.toNat = 0xF4 := by omega
      exact ⟨0x80, 0x8F, by rw [if_pos h, h], by omega⟩

lemma lead?_eq_none (h : 0x80 ≤ b.toNat) (h' : b.toNat < 0xC2 ∨ 0xF5 ≤ b.toNat) :
    lead? b = none := by
  simp only [lead?]
  rcases h' with h' | h'
  · rw [if_neg (by omega), if_pos h']
  · rw [if_neg (by omega), if_neg (by omega), if_neg (by omega), if_neg (by omega),
      if_neg (by omega), if_neg (by omega), if_neg (by omega), if_neg (by omega),
      if_neg (by omega)]

/-! ## The bytes that follow -/

lemma follow_zero_eq_some :
    follow acc low high 0 bs = (some c, rest) ↔ Char.ofNat acc = c ∧ bs = rest := by
  simp [follow]

lemma follow_succ_eq_some :
    follow acc low high (more + 1) bs = (some c, rest) ↔
      ∃ b bs', bs = b :: bs' ∧ (low ≤ b.toNat ∧ b.toNat ≤ high) ∧
        follow (acc * 64 + (b.toNat - 0x80)) 0x80 0xBF more bs' = (some c, rest) := by
  cases bs with
  | nil => simp [follow]
  | cons b bs =>
    rw [follow]
    constructor
    · intro h
      split at h
      · next hb => exact ⟨b, bs, rfl, hb, h⟩
      · cases h
    · rintro ⟨b', bs', hbs, hb, h⟩
      cases hbs
      rw [if_pos hb, h]

/-! ## Units -/

lemma val_ofNat {n : Nat} (h : n.isValidChar) : (Char.ofNat n).val.toNat = n := by
  rw [Char.ofNat, dif_pos h]
  rfl

lemma ofNat_eq_self {n : Nat} (h : n = b.toNat) : UInt8.ofNat n = b := by
  rw [h, UInt8.ofNat_toNat]

lemma ofNat_eq_of_val {n : Nat} (h : n = c.val.toNat) : Char.ofNat n = c := by
  rw [h]
  exact Char.ofNat_toNat c

lemma cons_eq_of_readUnit (h : readUnit b bs = (some c, rest)) :
    b :: bs = String.utf8EncodeChar c ++ rest := by
  rw [readUnit] at h
  have hb : b.toNat < 256 := b.toNat_lt
  unfold String.utf8EncodeChar
  by_cases h₁ : b.toNat < 0x80
  · rw [lead?_one h₁] at h
    simp only [follow_zero_eq_some] at h
    obtain ⟨rfl, rfl⟩ := h
    rw [val_ofNat (.inl (by omega)), if_pos (by omega), ofNat_eq_self rfl]
    rfl
  by_cases h₂ : b.toNat < 0xC2
  · rw [lead?_eq_none (by omega) (.inl h₂)] at h
    cases h
  by_cases h₃ : b.toNat < 0xE0
  · rw [lead?_two (by omega) h₃] at h
    simp only [follow_succ_eq_some, follow_zero_eq_some] at h
    obtain ⟨b₁, -, rfl, hb₁, rfl, rfl⟩ := h
    rw [val_ofNat (.inl (by omega)), if_neg (by omega), if_pos (by omega),
      ofNat_eq_self (b := b) (by omega), ofNat_eq_self (b := b₁) (by omega)]
    rfl
  by_cases h₄ : b.toNat < 0xF0
  · obtain ⟨low, high, hlead, hbounds⟩ := lead?_three (by omega) h₄
    rw [hlead] at h
    simp only [follow_succ_eq_some, follow_zero_eq_some, hbounds] at h
    obtain ⟨b₁, -, rfl, hb₁, b₂, -, rfl, hb₂, rfl, rfl⟩ := h
    rw [val_ofNat (by unfold Nat.isValidChar; omega), if_neg (by omega), if_neg (by omega),
      if_pos (by omega), ofNat_eq_self (b := b) (by omega), ofNat_eq_self (b := b₁) (by omega),
      ofNat_eq_self (b := b₂) (by omega)]
    rfl
  by_cases h₅ : b.toNat < 0xF5
  · obtain ⟨low, high, hlead, hbounds⟩ := lead?_four (by omega) h₅
    rw [hlead] at h
    simp only [follow_succ_eq_some, follow_zero_eq_some, hbounds] at h
    obtain ⟨b₁, -, rfl, hb₁, b₂, -, rfl, hb₂, b₃, -, rfl, hb₃, rfl, rfl⟩ := h
    rw [val_ofNat (by unfold Nat.isValidChar; omega), if_neg (by omega), if_neg (by omega),
      if_neg (by omega), ofNat_eq_self (b := b) (by omega), ofNat_eq_self (b := b₁) (by omega),
      ofNat_eq_self (b := b₂) (by omega), ofNat_eq_self (b := b₃) (by omega)]
    rfl
  · rw [lead?_eq_none (by omega) (.inr (by omega))] at h
    cases h

lemma readUnit_of_cons_eq (h : b :: bs = String.utf8EncodeChar c ++ rest) :
    readUnit b bs = (some c, rest) := by
  have hc : c.val.toNat.isValidChar := c.valid
  unfold Nat.isValidChar at hc
  have htoNat : ∀ n < 256, (UInt8.ofNat n).toNat = n := fun _ hn => UInt8.toNat_ofNat_of_lt' hn
  rw [readUnit]
  unfold String.utf8EncodeChar at h
  simp only at h
  split at h
  · obtain ⟨rfl, rfl⟩ := List.cons.inj h
    rw [lead?_one (by rw [htoNat _ (by omega)]; omega)]
    exact follow_zero_eq_some.2 ⟨ofNat_eq_of_val (htoNat _ (by omega)), rfl⟩
  split at h
  · obtain ⟨rfl, rfl⟩ := List.cons.inj h
    have hb := htoNat (c.val.toNat / 64 % 32 + 192) (by omega)
    have hb₁ := htoNat (c.val.toNat % 64 + 128) (by omega)
    rw [lead?_two (by omega) (by omega)]
    simp only [follow_succ_eq_some, follow_zero_eq_some]
    exact ⟨_, _, rfl, by omega, ofNat_eq_of_val (by omega), rfl⟩
  split at h
  · obtain ⟨rfl, rfl⟩ := List.cons.inj h
    have hb := htoNat (c.val.toNat / 4096 % 16 + 224) (by omega)
    have hb₁ := htoNat (c.val.toNat / 64 % 64 + 128) (by omega)
    have hb₂ := htoNat (c.val.toNat % 64 + 128) (by omega)
    obtain ⟨low, high, hlead, hbounds⟩ :=
      lead?_three (b := UInt8.ofNat (c.val.toNat / 4096 % 16 + 224)) (by omega) (by omega)
    rw [hlead]
    simp only [follow_succ_eq_some, follow_zero_eq_some, hbounds]
    exact ⟨_, _, rfl, by omega, _, _, rfl, by omega, ofNat_eq_of_val (by omega), rfl⟩
  · obtain ⟨rfl, rfl⟩ := List.cons.inj h
    have hb := htoNat (c.val.toNat / 262144 % 8 + 240) (by omega)
    have hb₁ := htoNat (c.val.toNat / 4096 % 64 + 128) (by omega)
    have hb₂ := htoNat (c.val.toNat / 64 % 64 + 128) (by omega)
    have hb₃ := htoNat (c.val.toNat % 64 + 128) (by omega)
    obtain ⟨low, high, hlead, hbounds⟩ :=
      lead?_four (b := UInt8.ofNat (c.val.toNat / 262144 % 8 + 240)) (by omega) (by omega)
    rw [hlead]
    simp only [follow_succ_eq_some, follow_zero_eq_some, hbounds]
    exact ⟨_, _, rfl, by omega, _, _, rfl, by omega, _, _, rfl, by omega,
      ofNat_eq_of_val (by omega), rfl⟩

/-- A unit is a character exactly where the bytes start with its encoding. -/
theorem readUnit_eq_some_iff :
    readUnit b bs = (some c, rest) ↔ b :: bs = String.utf8EncodeChar c ++ rest :=
  ⟨cons_eq_of_readUnit, readUnit_of_cons_eq⟩

/-! ## Whole texts -/

lemma encode_ofList (cs : List Char) :
    encode (String.ofList cs) = cs.flatMap String.utf8EncodeChar := by
  rw [encode, String.toUTF8_eq_toByteArray, String.toByteArray_ofList, List.utf8Encode,
    List.data_toByteArray]

lemma units_flatMap (cs : List Char) : units (cs.flatMap String.utf8EncodeChar) = cs.map some := by
  induction cs with
  | nil => rw [List.flatMap_nil, units, List.map_nil]
  | cons c cs ih =>
    obtain ⟨b, bs, hc⟩ := List.exists_cons_of_ne_nil (String.utf8EncodeChar_ne_nil (c := c))
    have hunit : readUnit b (bs ++ cs.flatMap String.utf8EncodeChar) =
        (some c, cs.flatMap String.utf8EncodeChar) := by
      rw [readUnit_eq_some_iff, hc, List.cons_append]
    rw [List.flatMap_cons, hc, List.cons_append, units, hunit, ih, List.map_cons]

lemma flatMap_of_units {cs : List Char} (h : units bs = cs.map some) :
    cs.flatMap String.utf8EncodeChar = bs := by
  induction cs generalizing bs with
  | nil =>
    cases bs with
    | nil => rfl
    | cons b bs =>
      rw [units] at h
      cases h
  | cons c cs ih =>
    cases bs with
    | nil =>
      rw [units] at h
      cases h
    | cons b bs =>
      rw [units, List.map_cons] at h
      obtain ⟨hc, hcs⟩ := List.cons.inj h
      rw [List.flatMap_cons, ih hcs]
      exact (readUnit_eq_some_iff.1 (Prod.ext hc rfl)).symm

lemma mapM_id_eq_some_iff {us : List (Option Char)} {cs : List Char} :
    us.mapM id = some cs ↔ us = cs.map some := by
  induction us generalizing cs with
  | nil => cases cs <;> simp
  | cons u us ih =>
    rw [List.mapM_cons]
    cases u with
    | none => cases cs <;> simp
    | some c =>
      have hcons : (do let a ← id (some c); let as ← us.mapM id; pure (a :: as)) = some cs ↔
          ∃ cs', c :: cs' = cs ∧ us.mapM id = some cs' := by
        simp [Option.bind_eq_some_iff, and_comm]
      rw [hcons]
      cases cs with
      | nil => simp
      | cons c' cs => simp [ih, and_assoc]

/-- Strict reading accepts the encodings of texts and nothing else. -/
theorem decode?_eq_some_iff {s : String} : decode? bs = some s ↔ encode s = bs := by
  have hencode : encode s = s.toList.flatMap String.utf8EncodeChar := by
    rw [← encode_ofList, String.ofList_toList]
  rw [decode?, Option.map_eq_some_iff, hencode]
  constructor
  · rintro ⟨cs, hcs, rfl⟩
    rw [String.toList_ofList]
    exact flatMap_of_units (mapM_id_eq_some_iff.1 hcs)
  · rintro rfl
    exact ⟨s.toList, mapM_id_eq_some_iff.2 (units_flatMap s.toList), String.ofList_toList⟩

lemma encode_injective : Function.Injective encode := by
  intro s t h
  have hs : decode? (encode t) = some s := decode?_eq_some_iff.2 h
  have ht : decode? (encode t) = some t := decode?_eq_some_iff.2 rfl
  exact Option.some.inj (hs.symm.trans ht)

end RuntimeSupport.Text.Utf8

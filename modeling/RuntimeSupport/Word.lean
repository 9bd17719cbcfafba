/-!
Arithmetic on 64-bit words whose exact result may not fit.  A checked operation answers `none` in
that case and a saturating one answers the largest word; nothing here wraps.

The main statements describe each operation by exact natural numbers: `add?_eq_some_iff`,
`mul?_eq_some_iff` and `toNat_saturate`.
-/

namespace RuntimeSupport

/-- A sequence of bytes. -/
abbrev Bytes := List UInt8

namespace Word

/-- The sum of two words, unless it needs a 65th bit. -/
def add? (a b : UInt64) : Option UInt64 :=
  if a.toNat + b.toNat < 0x1_0000_0000_0000_0000 then some (a + b) else none

/-- The product of two words, unless it needs more than 64 bits. -/
def mul? (a b : UInt64) : Option UInt64 :=
  if a.toNat * b.toNat < 0x1_0000_0000_0000_0000 then some (a * b) else none

/-- The largest word. -/
def largest : UInt64 := 0xFFFF_FFFF_FFFF_FFFF

/-- The word closest to `n`: `n` itself if it fits, and otherwise the largest word. -/
def saturate (n : Nat) : UInt64 :=
  if n < 0x1_0000_0000_0000_0000 then UInt64.ofNat n else largest

theorem add?_eq_some_iff {a b c : UInt64} : add? a b = some c ↔ a.toNat + b.toNat = c.toNat := by
  unfold add?
  have hc := c.toNat_lt
  split
  · rename_i h
    simp only [Option.some.injEq, ← UInt64.toNat_inj, UInt64.toNat_add, Nat.mod_eq_of_lt h]
  · rename_i h
    simp only [reduceCtorEq, false_iff]
    omega

theorem add?_eq_none_iff {a b : UInt64} :
    add? a b = none ↔ 0x1_0000_0000_0000_0000 ≤ a.toNat + b.toNat := by
  simp [add?]

theorem mul?_eq_some_iff {a b c : UInt64} : mul? a b = some c ↔ a.toNat * b.toNat = c.toNat := by
  unfold mul?
  have hc := c.toNat_lt
  split
  · rename_i h
    simp only [Option.some.injEq, ← UInt64.toNat_inj, UInt64.toNat_mul, Nat.mod_eq_of_lt h]
  · rename_i h
    simp only [reduceCtorEq, false_iff]
    omega

theorem mul?_eq_none_iff {a b : UInt64} :
    mul? a b = none ↔ 0x1_0000_0000_0000_0000 ≤ a.toNat * b.toNat := by
  simp [mul?]

theorem toNat_largest : largest.toNat = 0xFFFF_FFFF_FFFF_FFFF := by decide

theorem toNat_saturate (n : Nat) : (saturate n).toNat = min n (0xFFFF_FFFF_FFFF_FFFF) := by
  unfold saturate
  split
  · rename_i h
    rw [UInt64.toNat_ofNat', Nat.mod_eq_of_lt h]
    omega
  · rename_i h
    rw [toNat_largest]
    omega

end Word

end RuntimeSupport

import RuntimeSupport.Word

/-!
ASCII: the byte that stands for a character, and a few classes of bytes.
-/

namespace RuntimeSupport.Ascii

/-- The byte that stands for an ASCII character. -/
def code (c : Char) : UInt8 := UInt8.ofNat c.toNat

/-- The bytes of an ASCII text. -/
def bytes (s : String) : Bytes := s.toList.map code

/-- The character whose code point is the byte. -/
def char (b : UInt8) : Char := Char.ofNat b.toNat

/-- Whether a byte is a decimal digit. -/
def isDigit (b : UInt8) : Bool := code '0' ≤ b && b ≤ code '9'

/-- The value of a decimal digit. -/
def digitValue (b : UInt8) : Nat := b.toNat - (code '0').toNat

theorem digitValue_lt_ten {b : UInt8} (h : isDigit b) : digitValue b < 10 := by
  simp only [isDigit, Bool.and_eq_true, decide_eq_true_eq, UInt8.le_iff_toNat_le] at h
  have h9 : (code '9').toNat = 57 := by decide
  have h0 : (code '0').toNat = 48 := by decide
  unfold digitValue
  omega

end RuntimeSupport.Ascii

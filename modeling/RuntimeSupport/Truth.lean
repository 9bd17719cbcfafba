import RuntimeSupport.Word

/-!
Truth values and the unit value as single bytes, as compiled programs pass them.
-/

namespace RuntimeSupport.Truth

/-- The only value of the unit type. -/
def unitByte : UInt8 := 0

/-- The byte for false. -/
def falseByte : UInt8 := 0

/-- The byte for true. -/
def trueByte : UInt8 := 1

/-- The byte for a truth value. -/
def toByte (t : Bool) : UInt8 := if t then trueByte else falseByte

/-- The truth value of a byte: anything but zero is true. -/
def ofByte (b : UInt8) : Bool := b != falseByte

theorem ofByte_toByte (t : Bool) : ofByte (toByte t) = t := by cases t <;> decide

end RuntimeSupport.Truth

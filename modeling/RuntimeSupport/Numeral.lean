import RuntimeSupport.Word

/-!
Positional numerals.  `digits` writes a number with no leading zero (zero itself is a single zero),
`value` reads a list of digits back, and `value_digits` says that reading undoes writing.
-/

namespace RuntimeSupport.Numeral

/-- The radices in which numbers are written. -/
inductive Radix
  | octal
  | decimal
  | hexadecimal
  deriving DecidableEq, Repr

/-- The number of different digits of a radix. -/
def Radix.base : Radix → Nat
  | .octal => 8
  | .decimal => 10
  | .hexadecimal => 16

theorem Radix.two_le_base (r : Radix) : 2 ≤ r.base := by cases r <;> decide

/-- The digits of `n`, the most significant one first. -/
def digits (r : Radix) (n : Nat) : List Nat :=
  if n < r.base then [n] else digits r (n / r.base) ++ [n % r.base]
termination_by n
decreasing_by
  have := r.two_le_base
  exact Nat.div_lt_self (by omega) (by omega)

/-- The number that a list of digits stands for, the most significant digit first. -/
def value (r : Radix) (ds : List Nat) : Nat :=
  ds.foldl (fun acc d => acc * r.base + d) 0

@[simp] theorem value_append_singleton (r : Radix) (ds : List Nat) (d : Nat) :
    value r (ds ++ [d]) = value r ds * r.base + d := by
  simp [value]

theorem value_digits (r : Radix) (n : Nat) : value r (digits r n) = n := by
  fun_induction digits r n with
  | case1 n h => simp [value]
  | case2 n h ih => rw [value_append_singleton, ih, Nat.div_add_mod']

theorem digits_ne_nil (r : Radix) (n : Nat) : digits r n ≠ [] := by
  unfold digits
  split <;> simp

theorem lt_base_of_mem_digits {r : Radix} {n d : Nat} (h : d ∈ digits r n) : d < r.base := by
  fun_induction digits r n with
  | case1 n hn => simp_all
  | case2 n hn ih =>
    rcases List.mem_append.mp h with h | h
    · exact ih h
    · have := r.two_le_base
      rw [List.mem_singleton.mp h]
      exact Nat.mod_lt _ (by omega)

/-- The ASCII code of a digit; digits from ten on are letters, upper-case ones if `upper` is set. -/
def glyph (upper : Bool) (d : Nat) : UInt8 :=
  if d < 10 then UInt8.ofNat (0x30 + d)
  else if upper then UInt8.ofNat (0x41 + (d - 10))
  else UInt8.ofNat (0x61 + (d - 10))

/-- The digits of `n` as ASCII bytes. -/
def ascii (r : Radix) (upper : Bool) (n : Nat) : Bytes :=
  (digits r n).map (glyph upper)

/-- The digits of `n` as text, in lower case. -/
def text (r : Radix) (n : Nat) : String :=
  String.ofList ((ascii r false n).map fun b => Char.ofNat b.toNat)

/-- A natural number in decimal. -/
def decimal (n : Nat) : String := text .decimal n

/-- An integer in decimal, with a minus sign if it is negative. -/
def signedDecimal : Int → String
  | .ofNat n => decimal n
  | .negSucc n => "-" ++ decimal (n + 1)

/-- A word in decimal. -/
def word (w : UInt64) : String := decimal w.toNat

/-- The number that decimal digits stand for; there must be some, and nothing else. -/
def readDigits? (cs : List Char) : Option Nat :=
  if cs ≠ [] ∧ cs.all Char.isDigit then some (value .decimal (cs.map fun c => c.toNat - '0'.toNat))
  else none

/-- The integer that an optional sign and decimal digits stand for. -/
def readInteger? : List Char → Option Int
  | '-' :: cs => (readDigits? cs).map fun n => -(n : Int)
  | '+' :: cs => (readDigits? cs).map fun n => (n : Int)
  | cs => (readDigits? cs).map fun n => (n : Int)

/-- The integer that a text stands for, unless it does not fit 32 bits. -/
def readInt32? (cs : List Char) : Option Int32 :=
  match readInteger? cs with
  | some i => if -0x8000_0000 ≤ i ∧ i < 0x8000_0000 then some (Int32.ofInt i) else none
  | none => none

example : readInt32? "+007".toList = some 7 := by decide +kernel
example : readInt32? "2147483648".toList = none := by decide +kernel
example : readInt32? "-".toList = none := by decide +kernel

end RuntimeSupport.Numeral

import RuntimeSupport.Word

/-!
Reading bytes as UTF-8.  A byte sequence splits into units: a character, or a malformed stretch,
which is as long as it agrees with the start of some character and at least one byte.  Strict
reading refuses malformed stretches, lossy reading shows each as the replacement character.
-/

namespace RuntimeSupport.Text.Utf8

/-- What a lead byte announces: the bits it contributes, the bounds of the byte after it, and the
number of bytes to follow.  The bounds rule out overlong forms, surrogates and numbers past the last
code point. -/
structure Lead where
  /-- The bits contributed by the lead byte. -/
  bits : Nat
  /-- The least value of the second byte. -/
  low : Nat
  /-- The greatest value of the second byte. -/
  high : Nat
  /-- The number of bytes that follow. -/
  more : Nat

/-- The meaning of a lead byte, if it has one. -/
def lead? (b : UInt8) : Option Lead :=
  let n := b.toNat
  if n < 0x80 then some ⟨n, 0x80, 0xBF, 0⟩
  else if n < 0xC2 then none
  else if n < 0xE0 then some ⟨n - 0xC0, 0x80, 0xBF, 1⟩
  else if n = 0xE0 then some ⟨0, 0xA0, 0xBF, 2⟩
  else if n = 0xED then some ⟨0xD, 0x80, 0x9F, 2⟩
  else if n < 0xF0 then some ⟨n - 0xE0, 0x80, 0xBF, 2⟩
  else if n = 0xF0 then some ⟨0, 0x90, 0xBF, 3⟩
  else if n < 0xF4 then some ⟨n - 0xF0, 0x80, 0xBF, 3⟩
  else if n = 0xF4 then some ⟨4, 0x80, 0x8F, 3⟩
  else none

/-- Reads the bytes that follow a lead byte.  Answers the character, or `none` where the bytes stop
fitting, and the bytes not read. -/
def follow (acc low high : Nat) : Nat → Bytes → Option Char × Bytes
  | 0, rest => (some (Char.ofNat acc), rest)
  | _ + 1, [] => (none, [])
  | more + 1, b :: rest =>
    if low ≤ b.toNat ∧ b.toNat ≤ high then
      follow (acc * 64 + (b.toNat - 0x80)) 0x80 0xBF more rest
    else (none, b :: rest)

theorem length_follow_le (acc low high more : Nat) (bs : Bytes) :
    (follow acc low high more bs).2.length ≤ bs.length := by
  fun_induction follow acc low high more bs with
  | case1 => simp
  | case2 => simp
  | case3 acc low high more b rest h ih => simp only [List.length_cons]; omega
  | case4 => simp

/-- Reads one unit that starts with the byte `b`: a character, or `none` for a malformed stretch. -/
def readUnit (b : UInt8) (rest : Bytes) : Option Char × Bytes :=
  match lead? b with
  | none => (none, rest)
  | some l => follow l.bits l.low l.high l.more rest

theorem length_readUnit_le (b : UInt8) (rest : Bytes) :
    (readUnit b rest).2.length ≤ rest.length := by
  unfold readUnit
  split
  · simp
  · exact length_follow_le ..

/-- The units of a byte sequence, with `none` for each malformed stretch. -/
def units : Bytes → List (Option Char)
  | [] => []
  | b :: rest => (readUnit b rest).1 :: units (readUnit b rest).2
termination_by bs => bs.length
decreasing_by
  have := length_readUnit_le b rest
  simp only [List.length_cons]
  omega

/-- The text that the bytes encode, unless some stretch is malformed. -/
def decode? (bs : Bytes) : Option String :=
  ((units bs).mapM id).map String.ofList

/-- The text that the bytes encode, with U+FFFD in place of each malformed stretch. -/
def decodeLossy (bs : Bytes) : String :=
  String.ofList ((units bs).map fun c => c.getD '\ufffd')

/-- The bytes that encode a text. -/
def encode (s : String) : Bytes := s.toUTF8.data.toList

example : decodeLossy [0x61, 0xE2, 0x82, 0x62] = "a\ufffdb" := by decide +kernel
example : decode? [0xC3, 0xA9] = some "é" := by decide +kernel
example : decode? [0xED, 0xA0, 0x80] = none := by decide +kernel

end RuntimeSupport.Text.Utf8

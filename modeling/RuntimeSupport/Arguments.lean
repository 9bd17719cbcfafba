import RuntimeSupport.View

/-!
The arguments of a process.  The system hands over a count and a vector of strings that end at their
first NUL byte; `Arguments.ofRaw` copies them out and refuses a vector that does not keep what the
count promises.
-/

namespace RuntimeSupport

/-- Arguments as the system hands them over. -/
structure RawArguments where
  /-- The number of arguments that is claimed. -/
  count : Int32
  /-- The vector, unless it is null.  Each entry is null or a string, which ends at its first NUL
  byte, and a null entry follows the last one. -/
  entries : Option (List (Option Bytes))
  deriving DecidableEq, Repr

/-- The bytes of a string up to its first NUL byte. -/
def untilNul (bs : Bytes) : Bytes := bs.takeWhile (· ≠ 0)

/-- The vector for given strings, unless one of them holds a NUL byte or there are more than a count
can tell. -/
def RawArguments.ofStrings? (args : List Bytes) : Option RawArguments :=
  if (args.all fun bs => !bs.contains 0) && args.length < 0x8000_0000 then
    some ⟨Int32.ofNat args.length, some (args.map some)⟩
  else none

/-- The arguments of a process, the first of which is the name of the program. -/
structure Arguments where
  /-- The bytes of each argument. -/
  entries : List Bytes
  deriving DecidableEq, Repr

namespace Arguments

/-- No arguments. -/
def empty : Arguments := ⟨[]⟩

/-- Copies the first entries of a vector. -/
def readEntries : Nat → List (Option Bytes) → Except Fault (List Bytes)
  | 0, _ => .ok []
  | n + 1, some bs :: rest => do
    let others ← readEntries n rest
    return untilNul bs :: others
  | _ + 1, _ => .error (.nullPointer "argv entry")

/-- Copies the arguments that the system hands over. -/
def ofRaw (raw : RawArguments) : Except Fault Arguments :=
  if raw.count < 0 then .error (.invalidArgumentCount raw.count.toInt64)
  else if raw.count = 0 then .ok empty
  else
    match raw.entries with
    | none => .error (.nullPointer "argv")
    | some entries => do
      let copied ← readEntries raw.count.toNatClampNeg entries
      return ⟨copied⟩

/-- The number of arguments. -/
def count (a : Arguments) : Nat := a.entries.length

/-- The bytes of an argument. -/
def get (a : Arguments) (n : Nat) : Except Fault Bytes :=
  match a.entries[n]? with
  | some bs => .ok bs
  | none => .error (.argumentOutOfRange n a.count)

/-- An argument as a span. -/
def span (a : Arguments) (n : Nat) : Except Fault Span := do
  let bs ← a.get n
  return ⟨bs⟩

end Arguments

end RuntimeSupport

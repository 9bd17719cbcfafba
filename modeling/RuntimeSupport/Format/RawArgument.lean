import RuntimeSupport.Fault
import RuntimeSupport.Format.Argument
import RuntimeSupport.Region

/-!
Arguments of a format as compiled programs pass them: a tag and room for every kind of value.
Decoding checks the tag and the pointer, since neither can be trusted.
-/

namespace RuntimeSupport.Format

/-- An argument as a compiled program passes it. -/
structure RawArgument where
  /-- The tag that says what kind of argument it is. -/
  kind : Int32
  /-- The value, unless the argument is a run of bytes. -/
  value : UInt64
  /-- The bytes that the pointer leads to, unless it is null. -/
  bytes : Option Bytes
  /-- The number of bytes that are passed. -/
  length : UInt64
  deriving DecidableEq, Repr

namespace RawArgument

/-- The tag of each kind of argument. -/
def tag : Argument → Int32
  | .int _ => 0
  | .uint _ => 1
  | .char _ => 2
  | .bytes _ => 3
  | .pointer _ => 4

/-- How an argument is passed. -/
def ofArgument (a : Argument) : RawArgument :=
  match a with
  | .int v => ⟨tag a, v.toUInt64, none, 0⟩
  | .uint v => ⟨tag a, v, none, 0⟩
  | .char c => ⟨tag a, c.toUInt64, none, 0⟩
  | .bytes bs => ⟨tag a, 0, some bs, Word.ofLength bs⟩
  | .pointer v => ⟨tag a, v, none, 0⟩

/-- The run of bytes that is passed.  A null pointer may stand for no bytes, but not for some. -/
def run (r : RawArgument) : Except Fault Bytes :=
  match r.bytes with
  | some bs => .ok (bs.take r.length.toNat)
  | none => if r.length = 0 then .ok [] else .error (.nullPointer "format string argument")

/-- The argument that is passed at the given position. -/
def decode (position : Nat) (r : RawArgument) : Except Fault Argument :=
  if r.kind = 0 then .ok (.int r.value.toInt64)
  else if r.kind = 1 then .ok (.uint r.value)
  else if r.kind = 2 then .ok (.char r.value.toUInt8)
  else if r.kind = 3 then r.run.map .bytes
  else if r.kind = 4 then .ok (.pointer r.value)
  else .error (.format (.unknownArgumentKind position r.kind))

/-- The arguments that are passed from the given position on.  The first one at fault counts. -/
def decodeAll (position : Nat) : List RawArgument → Except Fault (List Argument)
  | [] => .ok []
  | r :: rest => do
    let a ← r.decode position
    let others ← decodeAll (position + 1) rest
    return a :: others

end RawArgument

end RuntimeSupport.Format

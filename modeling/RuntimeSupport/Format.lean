import RuntimeSupport.Format.Buffer

/-!
Formatting: a format and its arguments make bytes.

`formatInto` appends to a buffer and answers the number of bytes appended; a call that fails leaves
what it had written.  `format` starts from an empty buffer and answers the whole.
-/

namespace RuntimeSupport

open Format

/-- Appends the rendering of a format to a buffer.  Answers the buffer and the number of bytes
appended, or the failure; the buffer then holds what was written before it. -/
def formatInto (buffer fmt : Bytes) (args : List Argument) : Bytes × Except Failure Nat :=
  let r := render ⟨0, args⟩ (segments 0 fmt)
  let e := emit buffer.length r.fields
  (buffer ++ e.1,
    match e.2, r.stop with
    | some p, _ => .error (.panic p)
    | none, .error err => .error (.error err)
    | none, .ok () => .ok e.1.length)

/-- The rendering of a format. -/
def format (fmt : Bytes) (args : List Argument) : Except Failure Bytes :=
  match formatInto [] fmt args with
  | (out, .ok _) => .ok out
  | (_, .error f) => .error f

end RuntimeSupport

import RuntimeSupport.Format.Error
import RuntimeSupport.Format.Field
import RuntimeSupport.Format.Template

/-!
Walking the segments of a format with a supply of arguments.  The outcome is a list of fields and
the reason why the walk stopped; neither depends on the buffer that the fields will be written to.
-/

namespace RuntimeSupport.Format

/-- The arguments that no directive has taken yet. -/
structure Supply where
  /-- The position of the first of them among all arguments. -/
  position : Nat
  /-- The arguments themselves. -/
  remaining : List Argument
  deriving DecidableEq, Repr

/-- Takes the next argument. -/
def Supply.next (s : Supply) : Except Error (Argument × Supply) :=
  match s.remaining with
  | [] => .error (.missingArgument s.position)
  | a :: rest => .ok (a, ⟨s.position + 1, rest⟩)

/-- Takes the next argument as the value of a `*`. -/
def Supply.star (s : Supply) : Except Error (Int64 × Supply) := do
  let (a, s') ← s.next
  match a.star? with
  | some v => .ok (v, s')
  | none => .error (.argumentMismatch s.position '*')

/-- The flags and the width that a written width stands for; a negative value is a width to fill
after. -/
def Amount.toWidth (flags : Flags) (s : Supply) : Amount → Except Error (Flags × UInt64 × Supply)
  | .number n => .ok (flags, n, s)
  | .star => do
    let (v, s') ← s.star
    .ok ({ flags with left := flags.left || v < 0 }, UInt64.ofNat v.toInt.natAbs, s')

/-- The precision that a written precision stands for; a negative value is no precision at all. -/
def Amount.toPrecision (s : Supply) : Amount → Except Error (Option UInt64 × Supply)
  | .number n => .ok (some n, s)
  | .star => do
    let (v, s') ← s.star
    .ok (if v < 0 then none else some v.toUInt64, s')

/-- The form that a directive asks for, once its stars have taken their arguments. -/
def Directive.layout (d : Directive) (s : Supply) : Except Error (Layout × Supply) := do
  let (flags, width, s₁) ← d.width.toWidth d.flags s
  match d.precision with
  | none => .ok (⟨flags, width, none⟩, s₁)
  | some p => do
    let (precision, s₂) ← p.toPrecision s₁
    .ok (⟨flags, width, precision⟩, s₂)

/-- What a directive writes.  Its stars take their arguments first; only then does it matter how it
ends, and the argument of the conversion comes last. -/
def Directive.field (offset : Nat) (d : Directive) (s : Supply) :
    Except Error (Field × Supply) := do
  let (l, s') ← d.layout s
  match d.tail with
  | .missing => .error (.incompleteDirective offset)
  | .percent => .ok (.plain [Ascii.code '%'], s')
  | .unknown b => .error (.unknownConversion (Ascii.char b) offset)
  | .conversion conv => do
    let (a, s'') ← s'.next
    match conv.field? l a with
    | some f => .ok (f, s'')
    | none => .error (.argumentMismatch s'.position conv.letter)

/-- What a walk along a format yields. -/
structure Rendering where
  /-- The fields, up to the end or to the directive at fault. -/
  fields : List Field
  /-- The error that stopped the walk, if one did. -/
  stop : Except Error Unit

/-- A rendering with one more field in front. -/
def Rendering.cons (f : Field) (r : Rendering) : Rendering := { r with fields := f :: r.fields }

/-- Walks along the segments.  At the end every argument must have been taken. -/
def render (s : Supply) : List Segment → Rendering
  | [] =>
    match s.remaining with
    | [] => ⟨[], .ok ()⟩
    | _ :: _ => ⟨[], .error (.unusedArguments s.position (s.position + s.remaining.length))⟩
  | .literal b :: rest => (render s rest).cons (.plain [b])
  | .directive offset d :: rest =>
    match d.field offset s with
    | .error e => ⟨[], .error e⟩
    | .ok (f, s') => (render s' rest).cons f

end RuntimeSupport.Format

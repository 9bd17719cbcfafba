import RuntimeSupport.Word

/-!
What a terminal shows of a text.  A text may contain control sequences, which a terminal obeys and
does not show: they start with the escape byte and say by their own bytes where they end.  A
`Terminal` reads bytes one at a time, as in `Terminal.read`, and `visible` keeps those that are
shown: everything outside of control sequences except controls that are not blank.  Nothing is added
(`visible_sublist`), and text without other controls stays as it is (`visible_eq_self`).

A blank inside a control sequence is shown as well, and what follows it is shown up to the next
control; only then does the terminal come back to the sequence.
-/

namespace RuntimeSupport.Text

/-- How far a terminal has come in a control sequence. -/
inductive SequencePart
  /-- In none: it shows what it reads. -/
  | outside
  /-- After the escape byte. -/
  | escape
  /-- After the intermediate bytes of a short sequence. -/
  | escapeIntermediate
  /-- At the start of a control sequence with parameters. -/
  | controlEntry
  /-- In its parameters. -/
  | controlParameter
  /-- In its intermediate bytes. -/
  | controlIntermediate
  /-- In one that makes no sense. -/
  | controlIgnored
  /-- At the start of a device control string. -/
  | deviceEntry
  /-- In its parameters. -/
  | deviceParameter
  /-- In its intermediate bytes. -/
  | deviceIntermediate
  /-- In its data, in one that makes no sense, or in another string that is not obeyed. -/
  | dataString
  /-- In a command for the operating system, such as one that sets a title. -/
  | command
  deriving DecidableEq, Repr

/-- Whether a byte lies between two others, which count as well. -/
def between (low high b : UInt8) : Bool := low ≤ b && b ≤ high

/-- Whether a byte is an ASCII blank that is a control: a tabulator or the end of a line or page. -/
def isControlBlank (b : UInt8) : Bool := b = 0x09 || b = 0x0A || b = 0x0C || b = 0x0D

/-- Whether a byte announces a character of more than one byte. -/
def isLeadByte (b : UInt8) : Bool := between 0xC2 0xF4 b

/-- The number of bytes that follow the first one of a character. -/
def trailingBytes (b : UInt8) : Nat :=
  if b < 0xC2 then 0 else if b < 0xE0 then 1 else if b < 0xF0 then 2 else 3

namespace SequencePart

/-- Where a byte leads; `none` if the terminal stays where it is. -/
def next (part : SequencePart) (b : UInt8) : Option SequencePart :=
  if b = 0x18 || b = 0x1A then some outside
  else if b = 0x1B then some escape
  else
    match part with
    | outside => if isLeadByte b then some outside else none
    | escape =>
      if between 0x20 0x2F b then some escapeIntermediate
      else if b = 0x50 then some deviceEntry
      else if b = 0x5B then some controlEntry
      else if b = 0x5D then some command
      else if b = 0x58 || b = 0x5E || b = 0x5F then some dataString
      else if between 0x30 0x7E b then some outside
      else none
    | escapeIntermediate => if between 0x30 0x7E b then some outside else none
    | controlEntry =>
      if between 0x20 0x2F b then some controlIntermediate
      else if between 0x30 0x3F b then some controlParameter
      else if between 0x40 0x7E b then some outside
      else none
    | controlParameter =>
      if between 0x20 0x2F b then some controlIntermediate
      else if between 0x3C 0x3F b then some controlIgnored
      else if between 0x40 0x7E b then some outside
      else none
    | controlIntermediate =>
      if between 0x30 0x3F b then some controlIgnored
      else if between 0x40 0x7E b then some outside
      else none
    | controlIgnored => if between 0x40 0x7E b then some outside else none
    | deviceEntry =>
      if between 0x20 0x2F b then some deviceIntermediate
      else if between 0x30 0x3F b then some deviceParameter
      else if between 0x40 0x7E b then some dataString
      else none
    | deviceParameter =>
      if between 0x20 0x2F b then some deviceIntermediate
      else if between 0x3C 0x7E b then some dataString
      else none
    | deviceIntermediate => if between 0x30 0x7E b then some dataString else none
    | dataString => if b = 0x9C then some outside else none
    | command => if b = 0x07 then some outside else none

/-- Whether a terminal obeys controls where it is. -/
def obeysControls : SequencePart → Bool
  | outside | escape | escapeIntermediate => true
  | controlEntry | controlParameter | controlIntermediate | controlIgnored => true
  | deviceEntry | deviceParameter | deviceIntermediate | dataString | command => false

/-- Whether a byte is shown where a terminal is. -/
def shows (part : SequencePart) (b : UInt8) : Bool :=
  (part = outside && (between 0x20 0x7E b || isLeadByte b))
    || (part.obeysControls && isControlBlank b)

end SequencePart

/-- A terminal that reads a text. -/
structure Terminal where
  /-- How far it has come in a control sequence. -/
  part : SequencePart
  /-- Whether the byte before was shown. -/
  showing : Bool
  /-- The number of bytes that belong to the character before. -/
  trailing : Nat
  deriving DecidableEq, Repr

namespace Terminal

/-- A terminal that has read nothing. -/
def start : Terminal := ⟨.outside, false, 0⟩

/-- The terminal after a byte, which leads it somewhere or nowhere and is shown or not. -/
def advance (t : Terminal) (dest : Option SequencePart) (b : UInt8) (shown : Bool) :
    Terminal × Bool :=
  (⟨dest.getD t.part, shown, if shown then trailingBytes b else 0⟩, shown)

/-- Reads a byte after one that was not shown. -/
def resume (t : Terminal) (b : UInt8) : Terminal × Bool :=
  t.advance (t.part.next b) b (t.part.shows b)

/-- Reads a byte, and says whether it is shown.  After a byte that was shown the next one is taken
as if it stood outside of control sequences; if it would not be shown there, the terminal comes back
to where it is. -/
def read (t : Terminal) (b : UInt8) : Terminal × Bool :=
  if t.trailing > 0 then (⟨t.part, t.showing, t.trailing - 1⟩, true)
  else if t.showing then
    let dest := SequencePart.outside.next b
    if SequencePart.outside.shows b then t.advance dest b true
    else { t with part := dest.getD t.part }.resume b
  else t.resume b

/-- The bytes that a terminal shows of those that it reads. -/
def visibleFrom (t : Terminal) : Bytes → Bytes
  | [] => []
  | b :: bs =>
    let (t', shown) := t.read b
    if shown then b :: t'.visibleFrom bs else t'.visibleFrom bs

theorem visibleFrom_sublist (t : Terminal) (bs : Bytes) : (t.visibleFrom bs).Sublist bs := by
  induction bs generalizing t with
  | nil => exact List.Sublist.refl _
  | cons b bs ih =>
    rw [visibleFrom]
    split
    split
    · exact (ih _).cons_cons b
    · exact (ih _).cons b

/-- Whether a byte is one that a terminal shows and that changes nothing. -/
def isPlain (b : UInt8) : Bool := between 0x20 0x7E b || isControlBlank b

theorem read_of_isPlain {t : Terminal} {b : UInt8} (hp : t.part = .outside) (ht : t.trailing = 0)
    (hb : isPlain b) : t.read b = (⟨.outside, true, 0⟩, true) := by
  have key : ∀ n : Fin 256, isPlain (UInt8.ofNat n) →
      SequencePart.outside.next (UInt8.ofNat n) = none ∧
        SequencePart.outside.shows (UInt8.ofNat n) = true ∧ trailingBytes (UInt8.ofNat n) = 0 := by
    decide +kernel
  have hn : UInt8.ofNat b.toNat = b := UInt8.ofNat_toNat
  obtain ⟨h₁, h₂, h₃⟩ := by simpa [hn] using key ⟨b.toNat, b.toNat_lt⟩ (by simpa [hn] using hb)
  simp [read, resume, advance, hp, ht, h₁, h₂, h₃]

theorem visibleFrom_of_isPlain {t : Terminal} {bs : Bytes} (hp : t.part = .outside)
    (ht : t.trailing = 0) (hb : ∀ b ∈ bs, isPlain b) : t.visibleFrom bs = bs := by
  induction bs generalizing t with
  | nil => rfl
  | cons b bs ih =>
    rw [visibleFrom, read_of_isPlain hp ht (hb b List.mem_cons_self)]
    simp only [if_true]
    rw [ih rfl rfl fun b' h => hb b' (List.mem_cons_of_mem b h)]

end Terminal

/-- What a terminal shows of a text in UTF-8. -/
def visible (bs : Bytes) : Bytes := Terminal.start.visibleFrom bs

theorem visible_sublist (bs : Bytes) : (visible bs).Sublist bs := Terminal.visibleFrom_sublist _ bs

theorem visible_eq_self {bs : Bytes} (hb : ∀ b ∈ bs, Terminal.isPlain b) : visible bs = bs :=
  Terminal.visibleFrom_of_isPlain rfl rfl hb

example : visible [0x61, 0x1B, 0x5B, 0x33, 0x31, 0x6D, 0x62] = [0x61, 0x62] := by decide
example : visible [0x61, 0x07, 0x62, 0x7F, 0x0A] = [0x61, 0x62, 0x0A] := by decide
example : visible [0x1B, 0x5D, 0x61, 0x0A] = [] := by decide

end RuntimeSupport.Text

import RuntimeSupport.Log.Pattern

/-!
The room that it takes to search for a pattern.  A pattern is turned into states between which a
search moves, byte by byte of the UTF-8 text; a search from back to front has states of its own.
Patterns that take too much room are refused, so what matters here is how the room grows with the
pattern: a repetition copies the states of what is repeated.
-/

namespace RuntimeSupport.Log.Pattern

/-! ## The code points of a set -/

/-- The code points from one to another, both included. -/
structure Span where
  /-- The first code point. -/
  first : Nat
  /-- The last one. -/
  last : Nat
  deriving DecidableEq, Repr

namespace Span

/-- Adds a span to tidy spans: to spans that do not touch, in increasing order. -/
def insert (s : Span) : List Span → List Span
  | [] => [s]
  | t :: rest =>
    if s.last + 1 < t.first then s :: t :: rest
    else if t.last + 1 < s.first then t :: insert s rest
    else insert ⟨min s.first t.first, max s.last t.last⟩ rest

/-- The same code points as tidy spans. -/
def tidy (spans : List Span) : List Span := spans.foldr insert []

/-- The code points from a given one on that are not in tidy spans. -/
def gaps (start : Nat) : List Span → List Span
  | [] => if start ≤ 0x10FFFF then [⟨start, 0x10FFFF⟩] else []
  | s :: rest =>
    if start < s.first then ⟨start, s.first - 1⟩ :: gaps (s.last + 1) rest
    else gaps (s.last + 1) rest

/-- The code points that are not in some spans. -/
def compl (spans : List Span) : List Span := gaps 0 (tidy spans)

/-- The code points that are in two lists of spans. -/
def inter (a b : List Span) : List Span := compl (compl a ++ compl b)

end Span

/-- The ASCII letters. -/
def letters : List Char :=
  (List.range 26).flatMap fun n => [Char.ofNat ('A'.toNat + n), Char.ofNat ('a'.toNat + n)]

/-- The characters of a set as spans of code points, in any order. -/
def spans : CharSet → List Span
  | .range first last => if first ≤ last then [⟨first.toNat, last.toNat⟩] else []
  | .union a b => spans a ++ spans b
  | .inter a b => Span.inter (spans a) (spans b)
  | .diff a b => Span.inter (spans a) (Span.compl (spans b))
  | .symmDiff a b =>
    let a := spans a
    let b := spans b
    Span.inter (a ++ b) (Span.compl a ++ Span.compl b)
  | .compl a => Span.compl (spans a)
  | .anyCase a =>
    let others := letters.filter fun c => a.contains (swapCase c)
    spans a ++ others.map fun c => ⟨c.toNat, c.toNat⟩

/-! ## UTF-8 -/

/-- Code points of one length in UTF-8: the span of them and the number of bytes behind the first
one. -/
def lengths : List (Span × Nat) :=
  [(⟨0, 0x7F⟩, 0), (⟨0x80, 0x7FF⟩, 1), (⟨0x800, 0xD7FF⟩, 2), (⟨0xE000, 0xFFFF⟩, 2),
    (⟨0x10000, 0x10FFFF⟩, 3)]

/-- The ways to write numbers of so many digits to base 64 behind a first digit, which may be
larger: for every digit the span from which it comes.  Together they write every number of the span
once. -/
def digitSpans : Nat → Span → List (List Span)
  | 0, s => [[s]]
  | more + 1, s =>
    let unit := 64 ^ (more + 1)
    let under (first : Nat) (rest : Span) : List (List Span) :=
      (digitSpans more rest).map (⟨first, first⟩ :: ·)
    let first := s.first / unit
    let last := s.last / unit
    if first = last then under first ⟨s.first % unit, s.last % unit⟩
    else
      let isWhole := s.first % unit = 0
      let isWhole' := s.last % unit = unit - 1
      let start := if isWhole then first else first + 1
      let stop := if isWhole' then last + 1 else last
      (if isWhole then [] else under first ⟨s.first % unit, unit - 1⟩)
        ++ (if start < stop then
          [⟨start, stop - 1⟩ :: List.replicate (more + 1) ⟨0, 63⟩] else [])
        ++ (if isWhole' then [] else under last ⟨0, s.last % unit⟩)

/-- The sequences of spans of bytes that write the code points of a span.  Of each byte only the
bits that belong to the code point are given. -/
def byteSpans (s : Span) : List (List Span) :=
  lengths.flatMap fun (range, more) =>
    let first := max s.first range.first
    let last := min s.last range.last
    if first ≤ last then digitSpans more ⟨first, last⟩ else []

/-- The number of elements that lists do not share with the start of the list before them. -/
def countFresh (before : List Span) : List (List Span) → Nat
  | [] => 0
  | s :: rest =>
    let shared :=
      if s.length = before.length then ((s.zip before).takeWhile fun (a, b) => a = b).length else 0
    s.length - shared + countFresh s rest

/-- What follows the elements of a list. -/
def tails : List Span → List (List Span)
  | [] => []
  | [_] => []
  | _ :: rest => rest :: tails rest

/-! ## Room -/

/-- The room that the states of a pattern take, in bytes. -/
structure Room where
  /-- The room for a search from front to back. -/
  forward : Nat
  /-- The room for a search from back to front. -/
  backward : Nat
  deriving DecidableEq, Repr

namespace Room

/-- The same room in both directions. -/
def both (room : Nat) : Room := ⟨room, room⟩

/-- The room of some states. -/
def states (count : Nat) : Room := both (32 * count)

/-- The room of a state with so many ways to go on. -/
def choice (ways : Nat) : Room := both (32 + 4 * ways)

instance : Add Room := ⟨fun a b => ⟨a.forward + b.forward, a.backward + b.backward⟩⟩

instance : HMul Nat Room Room := ⟨fun n a => ⟨n * a.forward, n * a.backward⟩⟩

/-- The room for a set of characters.  A single character takes a state for each of its bytes.
ASCII characters take a state with a way for every span of them.  Otherwise a search from front to
back shares the states for the ends of characters, and one from back to front those for their
starts. -/
def ofSet (set : CharSet) : Room :=
  let spans := Span.tidy (spans set)
  let sequences := spans.flatMap byteSpans
  match spans with
  | [⟨first, last⟩] =>
    if first = last then states (Char.ofNat first).utf8Size
    else ofSequences sequences
  | _ => ofSequences sequences
where
  /-- The room for characters that are written as one of some sequences of bytes. -/
  ofSequences (sequences : List (List Span)) : Room :=
    if sequences.all (·.length = 1) then states 2 + both (8 * sequences.length)
    else
      let ends := (sequences.flatMap tails).eraseDups
      ⟨64 + 8 * sequences.length + 40 * ends.length,
        64 + 4 * sequences.length + 32 * countFresh [] sequences⟩

/-- The room for one of some patterns. -/
def either (rooms : List Room) : Room :=
  states 1 + choice rooms.length + rooms.foldl (· + ·) (both 0)

/-- The room for a group that can be referred to.  A search from back to front does not keep track
of groups. -/
def captured (r : Room) : Room := ⟨r.forward + 64, r.backward⟩

/-- The room for a repeated pattern, which may match the empty text. -/
def times (r : Room) (mayBeEmpty : Bool) (least : Nat) (most : Option Nat) : Room :=
  match most with
  | none =>
    if least = 0 then
      if mayBeEmpty then r + choice 2 + choice 2 + states 1 else r + choice 2
    else least * r + choice 2
  | some most =>
    if least = most then least * r
    else if least = 0 ∧ most = 1 then r + choice 2 + states 1
    else (if least = 0 then states 1 else least * r) + states 1 + (most - least) * (r + choice 2)

/-- The room that a search takes besides that of its pattern. -/
def start : Room := ⟨208, 144⟩

/-- The room that a search may take. -/
def limit : Nat := 10485760

example : (ofSet (.compl (.ofChar '\n'))).backward = 1000 := by decide +kernel

end Room

end RuntimeSupport.Log.Pattern

import RuntimeSupport.Log.Pattern.Mistake
import RuntimeSupport.Text.Blank

/-!
Reading a pattern from its first character to its last one.  A `Reader` reads some characters and
answers what they stand for, unless they make no sense.

A pattern can ask for blanks and comments to be skipped.  A comment starts with a number sign and
ends with the line.  Where they are skipped is up to the readers; `Reader.next` moves on by one
character and over the blanks behind it.
-/

namespace RuntimeSupport.Log.Pattern

/-- A place in a pattern. -/
structure Cursor where
  /-- The number of characters before it. -/
  place : Nat
  /-- The characters after it. -/
  rest : List Char
  /-- Whether blanks and comments are skipped. -/
  verbose : Bool
  deriving DecidableEq, Repr

/-- What reads a part of a pattern. -/
abbrev Reader := EStateM Mistake Cursor

/-- The number of characters of the blanks and comments at the start of a text, and some more
characters.  The text may start within a comment. -/
def blankLength (more : Nat) (inComment : Bool) : List Char → Nat
  | [] => more
  | c :: cs =>
    if inComment then blankLength (more + 1) (c ≠ '\n') cs
    else if Text.isBlank c then blankLength (more + 1) false cs
    else if c = '#' then blankLength (more + 1) true cs
    else more

example : blankLength 0 false " # a\n\t#\nb #".toList = 8 := by decide +kernel

namespace Reader

/-- The number of characters that have been read. -/
def place : Reader Nat := return (← get).place

/-- The next character, unless there is none. -/
def peek? : Reader (Option Char) := return (← get).rest.head?

/-- Whether there is no next character. -/
def atEnd : Reader Bool := return (← get).rest.isEmpty

/-- The character after the next one; where blanks are skipped, the first one after the next that
is neither a blank nor the number sign of the first comment.  If there is none, a blank or a number
sign will do. -/
def peekBeyond? : Reader (Option Char) := do
  let c ← get
  let beyond := c.rest.tail
  if c.verbose then
    let visible := beyond.dropWhile Text.isBlank
    let visible :=
      if visible.head? = some '#' then visible.tail.dropWhile Text.isBlank else visible
    return visible.head?.or beyond.head?
  else return beyond.head?

/-- Moves on by some characters. -/
def skip (count : Nat) : Reader Unit :=
  modify fun c =>
    { c with place := c.place + (c.rest.take count).length, rest := c.rest.drop count }

/-- Moves on over blanks and comments, if they are skipped. -/
def blanks : Reader Unit := do
  let c ← get
  if c.verbose then skip (blankLength 0 false c.rest)

/-- Moves on by a character, and over blanks and comments behind it. -/
def next : Reader Unit := do
  skip 1
  blanks

/-- The characters up to the first one that is not as asked for, which the reader moves on to. -/
def takeWhile (p : Char → Bool) : Reader (List Char) := do
  let cs := (← get).rest.takeWhile p
  skip cs.length
  return cs

/-- The characters up to the first one that is not as asked for, without the blanks and comments
behind each of them.  The reader moves on to that character.  At most so many are read. -/
def takeVisible (p : Char → Bool) : Nat → List Char → Reader (List Char)
  | 0, seen => return seen.reverse
  | limit + 1, seen => do
    match ← peek? with
    | none => return seen.reverse
    | some c =>
      if p c then
        next
        takeVisible p limit (c :: seen)
      else return seen.reverse

/-- Moves on over a text, if it comes next. -/
def accept (text : String) : Reader Bool := do
  if text.toList.isPrefixOf (← get).rest then
    skip text.length
    return true
  else return false

/-- Sets whether blanks and comments are skipped. -/
def setVerbose (verbose : Bool) : Reader Unit := modify fun c => { c with verbose }

/-- Gives up because of a stretch of the pattern. -/
def fail {α : Type} (cause : Cause) (start stop : Nat) : Reader α :=
  throw ⟨cause, [⟨start, stop⟩]⟩

/-- Gives up because of the next character. -/
def failHere {α : Type} (cause : Cause) : Reader α := do
  let p ← place
  fail cause p (p + 1)

/-- Gives up between two characters. -/
def failBetween {α : Type} (cause : Cause) : Reader α := do
  let p ← place
  fail cause p p

end Reader

end RuntimeSupport.Log.Pattern

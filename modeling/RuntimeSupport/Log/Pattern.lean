/-!
Patterns of text.  A pattern is a regular expression: it matches stretches of a text, and may ask
what stands before and after such a stretch.  `Pattern.occursIn` says whether a text holds a stretch
that a pattern matches.

A search keeps the patterns that the rest of the text has to start with.  `Pattern.acceptsEmpty`
says whether a pattern is satisfied where the search stands, and `Pattern.after` gives what is left
of a pattern behind one more character, in all the ways in which the character can be used.
-/

namespace RuntimeSupport.Log

/-- A set of characters. -/
inductive CharSet
  /-- The characters between two others, which count as well. -/
  | range (first last : Char)
  /-- The characters of either set. -/
  | union (a b : CharSet)
  /-- The characters of both sets. -/
  | inter (a b : CharSet)
  /-- The characters of the first set that are not in the second one. -/
  | diff (a b : CharSet)
  /-- The characters that are in one of the sets only. -/
  | symmDiff (a b : CharSet)
  /-- The characters that are not in a set. -/
  | compl (a : CharSet)
  /-- The characters of a set, and the ASCII letters that differ from one of its letters only in
  being large or small. -/
  | anyCase (a : CharSet)
  deriving DecidableEq, Repr

/-- An ASCII letter made large if it is small and small if it is large; other characters stay. -/
def swapCase (c : Char) : Char := if c.isUpper then c.toLower else c.toUpper

namespace CharSet

/-- Whether a character is in a set. -/
def contains : CharSet → Char → Bool
  | range first last, c => first ≤ c && c ≤ last
  | union a b, c => a.contains c || b.contains c
  | inter a b, c => a.contains c && b.contains c
  | diff a b, c => a.contains c && !b.contains c
  | symmDiff a b, c => a.contains c != b.contains c
  | compl a, c => !a.contains c
  | anyCase a, c => a.contains c || a.contains (swapCase c)

/-- The set of one character. -/
def ofChar (c : Char) : CharSet := range c c

@[simp] theorem contains_ofChar (c d : Char) :
    (ofChar c).contains d = true ↔ d = c := by
  simp only [ofChar, contains, Bool.and_eq_true, decide_eq_true_eq]
  constructor
  · exact fun h => Char.le_antisymm h.2 h.1
  · rintro rfl
    exact ⟨Char.le_refl _, Char.le_refl _⟩

/-- The set of all characters. -/
def all : CharSet := range '\x00' (Char.ofNat 0x10FFFF)

/-- The set without characters. -/
def none : CharSet := compl all

/-- The union of sets. -/
def ofList (sets : List CharSet) : CharSet := sets.foldr union none

/-- The ASCII characters that words consist of. -/
def word : CharSet := ofList [range '0' '9', range 'A' 'Z', ofChar '_', range 'a' 'z']

end CharSet

/-- What a pattern can ask about the place between two characters.  At the ends of the text there is
no character. -/
inductive Boundary
  /-- The text starts here. -/
  | textStart
  /-- The text ends here. -/
  | textEnd
  /-- A line starts here.  With `paired`, a carriage return ends a line as well, alone or together
  with the line feed after it. -/
  | lineStart (paired : Bool)
  /-- A line ends here. -/
  | lineEnd (paired : Bool)
  /-- A word starts or ends here. -/
  | word
  /-- No word starts or ends here. -/
  | notWord
  /-- A word starts here. -/
  | wordStart
  /-- A word ends here. -/
  | wordEnd
  /-- No character of a word stands before this place. -/
  | wordStartHalf
  /-- No character of a word stands after this place. -/
  | wordEndHalf
  deriving DecidableEq, Repr

namespace Boundary

/-- Whether a character belongs to a word. -/
def inWord (c : Option Char) : Bool := c.any CharSet.word.contains

/-- Whether a place is as asked for. -/
def holds (b : Boundary) (before after : Option Char) : Bool :=
  match b with
  | textStart => before.isNone
  | textEnd => after.isNone
  | lineStart false => before.all (· = '\n')
  | lineStart true => before.all fun c => c = '\n' || (c = '\r' && after ≠ some '\n')
  | lineEnd false => after.all (· = '\n')
  | lineEnd true => after.all fun c => c = '\r' || (c = '\n' && before ≠ some '\r')
  | word => inWord before != inWord after
  | notWord => inWord before == inWord after
  | wordStart => !inWord before && inWord after
  | wordEnd => inWord before && !inWord after
  | wordStartHalf => !inWord before
  | wordEndHalf => !inWord after

end Boundary

/-- A regular expression. -/
inductive Pattern
  /-- Matches nothing but the empty text. -/
  | empty
  /-- Matches one character. -/
  | char (set : CharSet)
  /-- Matches the empty text at certain places. -/
  | boundary (b : Boundary)
  /-- Matches what the first pattern matches and then what the second one matches. -/
  | append (p q : Pattern)
  /-- Matches what either pattern matches. -/
  | either (p q : Pattern)
  /-- Matches what the pattern matches some number of times. -/
  | times (p : Pattern) (least : Nat) (most : Option Nat)
  deriving DecidableEq, Repr

namespace Pattern

/-- Whether a pattern matches the empty text between two characters. -/
def acceptsEmpty (before after : Option Char) : Pattern → Bool
  | empty => true
  | char _ => false
  | boundary b => b.holds before after
  | append p q => p.acceptsEmpty before after && q.acceptsEmpty before after
  | either p q => p.acceptsEmpty before after || q.acceptsEmpty before after
  | times p least _ => least = 0 || p.acceptsEmpty before after

/-- The patterns of which one has to match what follows a character, so that the given pattern
matches from that character on. -/
def after (before : Option Char) (c : Char) : Pattern → List Pattern
  | empty => []
  | boundary _ => []
  | char set => if set.contains c then [empty] else []
  | append p q =>
    let first := (p.after before c).map fun p' => if p' = empty then q else append p' q
    if p.acceptsEmpty before (some c) then first ++ q.after before c else first
  | either p q => p.after before c ++ q.after before c
  | times p least most =>
    if most = some 0 then []
    else
      let least' := if p.acceptsEmpty before (some c) then 0 else least - 1
      (p.after before c).map fun p' => append p' (times p least' (most.map (· - 1)))

/-- Adds a pattern to a list unless it is there. -/
def insertInto (ps : List Pattern) (p : Pattern) : List Pattern :=
  if ps.contains p then ps else p :: ps

/-- Whether one of some patterns matches a stretch at the start of a text, or a given pattern one
that starts later. -/
def search (p : Pattern) (before : Option Char) (pending : List Pattern) : List Char → Bool
  | [] => pending.any (·.acceptsEmpty before none)
  | c :: cs =>
    pending.any (·.acceptsEmpty before (some c))
      || p.search (some c) ((pending.flatMap (·.after before c)).foldl insertInto [p]) cs

/-- Whether a pattern matches some stretch of a text. -/
def occursIn (p : Pattern) (cs : List Char) : Bool := p.search none [p] cs

end Pattern

end RuntimeSupport.Log

import RuntimeSupport.Log.Pattern.Reading
import RuntimeSupport.Log.Pattern.Room

/-!
What the parts of a pattern mean under the flags that hold where they stand.  Many parts are well
formed and still cannot be searched for: only of ASCII characters is it known to which classes they
belong and which letters differ only in being large or small.

`Pattern.read` answers the pattern, or the first mistake that keeps it from being well formed, or
else the first one that keeps it from being searched for.
-/

namespace RuntimeSupport.Log.Pattern

/-! ## Flags -/

/-- How a part of a pattern is to be taken. -/
structure Flags where
  /-- Large and small letters are the same. -/
  anyCase : Bool
  /-- The ends of the text that a pattern can ask for are those of its lines. -/
  lines : Bool
  /-- A dot stands for the end of a line as well. -/
  dotAll : Bool
  /-- Carriage returns end lines. -/
  paired : Bool
  /-- Characters are ASCII characters only. -/
  ascii : Bool
  deriving DecidableEq, Repr

namespace Flags

/-- The flags of a pattern that sets none. -/
def default : Flags := ⟨false, false, false, false, false⟩

/-- The flags after one has been given or taken back. -/
def set (f : Flags) (letter : Char) (value : Bool) : Flags :=
  match letter with
  | 'i' => { f with anyCase := value }
  | 'm' => { f with lines := value }
  | 's' => { f with dotAll := value }
  | 'R' => { f with paired := value }
  | 'u' => { f with ascii := !value }
  | _ => f

/-- The flags after some have been given and, behind a minus sign, some taken back. -/
def change (f : Flags) (items : List FlagItem) : Flags :=
  let letters := items.map (·.letter)
  let given := letters.takeWhile (· ≠ '-')
  let takenBack := letters.dropWhile (· ≠ '-')
  takenBack.foldl (·.set · false) (given.foldl (·.set · true) f)

/-- A set of which the letters may be large or small, if the flags say so. -/
def fold (f : Flags) (set : CharSet) : CharSet := if f.anyCase then .anyCase set else set

end Flags

/-- What a part of a pattern stands for, if it can be searched for. -/
abbrev Meaning := Except Mistake

/-- A mistake that lies in one stretch. -/
def restricted {α : Type} (cause : Cause) (place : Extent) : Meaning α := .error ⟨cause, [place]⟩

/-! ## Classes of characters -/

/-- The names that three categories of characters have in common with properties. -/
def categoryNames : List String := ["cf", "sc", "lc"]

/-- Whether a name of a property is that of a category as well.  Blanks, low lines, hyphens and a
prefix do not count, and neither do characters that are no ASCII characters. -/
def isCategory (name : List Char) : Bool :=
  let isPrefixed := (name.take 2).map Char.toLower = ['i', 's']
  let kept := (if isPrefixed then name.drop 2 else name).filter fun c =>
    c.toNat < 0x80 && c ≠ ' ' && c ≠ '_' && c ≠ '-'
  categoryNames.contains (String.ofList (kept.map Char.toLower))

namespace Flags

/-- The characters with some property. -/
def property (f : Flags) (name : List Char) (place : Extent) : Meaning CharSet :=
  restricted (if f.ascii then .charactersDisabled
    else if isCategory name then .categoryUnavailable else .propertyUnavailable) place

/-- A class by its ASCII characters. -/
def asciiSet (f : Flags) (set : CharSet) (negated : Bool) (place : Extent) : Meaning CharSet :=
  if !f.ascii then restricted .classUnavailable place
  else if negated then restricted .bytesInvalid place
  else .ok set

/-- A character as a member of a class. -/
def member (f : Flags) (m : Member) : Meaning Char :=
  if f.ascii && m.char.toNat ≥ 0x80 then
    restricted (if m.asByte then .bytesInvalid else .charactersDisabled) m.place
  else .ok m.char

end Flags

/-- The characters of a class. -/
structure Members where
  /-- The characters. -/
  set : CharSet
  /-- Whether no characters have been named, so that it cannot matter which letters are large. -/
  isCaseless : Bool

namespace Flags

/-- The members of a class that names characters. -/
def named (f : Flags) (set : CharSet) : Members := ⟨f.fold set, false⟩

/-- Checks that it is known which letters of a class differ only in being large or small, if that
matters. -/
def checkCase (f : Flags) (m : Members) (place : Extent) : Meaning Unit :=
  if f.anyCase && !f.ascii && !m.isCaseless then restricted .caseUnavailable place else .ok ()

/-- A class of which the members are known, or the characters outside of it. -/
def close (f : Flags) (m : Members) (negated : Bool) (place : Extent) : Meaning Members := do
  f.checkCase m place
  if !negated then return m
  else if f.ascii then restricted .bytesInvalid place
  else return ⟨.compl m.set, m.isCaseless⟩

end Flags

mutual

/-- The characters of a class. -/
def CharClass.members (f : Flags) : CharClass → Meaning Members
  | .nothing _ => .ok ⟨.none, true⟩
  | .member m => do return f.named (.ofChar (← f.member m))
  | .range first last => do return f.named (.range (← f.member first) (← f.member last))
  | .charSet ascii negated place => do return f.named (← f.asciiSet ascii negated place)
  | .property name place => do return f.named (← f.property name place)
  | .named set negated place => f.close (f.named set) negated place
  | .union parts _ => CharClass.allMembers f ⟨.none, true⟩ parts
  | .closed inner negated place => do f.close (← CharClass.members f inner) negated place
  | .operation op left right _ => do
    let a ← CharClass.members f left
    let b ← CharClass.members f right
    f.checkCase b right.place
    f.checkCase a left.place
    return ⟨op.apply a.set b.set, true⟩

/-- The characters of several classes, and some more. -/
def CharClass.allMembers (f : Flags) (more : Members) : List CharClass → Meaning Members
  | [] => .ok more
  | c :: cs => do
    let m ← CharClass.members f c
    CharClass.allMembers f ⟨.union m.set more.set, more.isCaseless && m.isCaseless⟩ cs

end

/-! ## Patterns with their room -/

/-- Whether a pattern matches no text but the empty one. -/
def isWidthless : Pattern → Bool
  | .empty | .boundary _ => true
  | .char _ => false
  | .append p q => isWidthless p && isWidthless q
  | .either p q => isWidthless p && isWidthless q
  | .times p _ most => most = some 0 || isWidthless p

/-- Whether a pattern matches the empty text at some place. -/
def mayBeEmpty : Pattern → Bool
  | .empty | .boundary _ => true
  | .char _ => false
  | .append p q => mayBeEmpty p && mayBeEmpty q
  | .either p q => mayBeEmpty p || mayBeEmpty q
  | .times p least _ => least = 0 || mayBeEmpty p

/-- A pattern with what it takes to search for it. -/
structure Compiled where
  /-- The pattern. -/
  pattern : Pattern
  /-- The room for its states. -/
  room : Room
  /-- Whether it asks where words start or end, of any characters. -/
  needsWords : Bool

namespace Compiled

/-- The pattern that matches nothing but the empty text. -/
def empty : Compiled := ⟨.empty, .states 1, false⟩

/-- A character of a set. -/
def ofSet (set : CharSet) : Compiled := ⟨.char set, .ofSet set, false⟩

/-- A question about a place. -/
def boundary (b : Boundary) (needsWords : Bool) : Compiled := ⟨.boundary b, .states 1, needsWords⟩

/-- A group that can be referred to. -/
def captured (c : Compiled) : Compiled := { c with room := c.room.captured }

/-- A repeated pattern.  Of what is never to match nothing is kept, and the empty text is matched
once at most. -/
def times (c : Compiled) (count : Repetition) : Compiled :=
  if count.most = some 0 then empty
  else
    let (least, most) :=
      if isWidthless c.pattern then (min count.least 1, some 1) else (count.least, count.most)
    { c with
      pattern := .times c.pattern count.least count.most
      room := c.room.times (mayBeEmpty c.pattern) least most }

/-- Patterns one after the other. -/
def sequence (cs : List Compiled) : Compiled where
  pattern := cs.foldr (fun c after =>
    if c.pattern = .empty then after
    else if after = .empty then c.pattern
    else .append c.pattern after) .empty
  room := cs.foldl (fun room c => room + c.room) (.both 0)
  needsWords := cs.any (·.needsWords)

/-- Patterns of which one is to match. -/
def either : List Compiled → Compiled
  | [] => empty
  | c :: cs =>
    { pattern := cs.foldl (fun p c => .either p c.pattern) c.pattern
      room := .either ((c :: cs).map (·.room))
      needsWords := (c :: cs).any (·.needsWords) }

/-- The pattern, if it can be searched for. -/
def check (c : Compiled) : Meaning Pattern :=
  let room := c.room + .start
  if room.forward > Room.limit then .error ⟨.tooLarge, []⟩
  else if c.needsWords then .error ⟨.wordUnavailable, []⟩
  else if room.backward > Room.limit then .error ⟨.tooLarge, []⟩
  else .ok c.pattern

end Compiled

/-! ## Parts of patterns -/

namespace Flags

/-- A character. -/
def char (f : Flags) (c : Char) (asByte : Bool) (place : Extent) : Meaning Compiled :=
  if f.ascii && asByte && c.toNat ≥ 0x80 then restricted .bytesInvalid place
  else if f.anyCase && !f.ascii then restricted .caseUnavailable place
  else .ok (.ofSet (if f.anyCase && c.isAlpha then .anyCase (.ofChar c) else .ofChar c))

/-- Any character. -/
def dot (f : Flags) (place : Extent) : Meaning Compiled :=
  let ends := if f.paired then CharSet.union (.ofChar '\n') (.ofChar '\r') else .ofChar '\n'
  if f.ascii then restricted .bytesInvalid place
  else .ok (.ofSet (if f.dotAll then .all else .compl ends))

/-- Whether a question about a place is one about words. -/
def isAboutWords : Boundary → Bool
  | .textStart | .textEnd | .lineStart _ | .lineEnd _ => false
  | .word | .notWord | .wordStart | .wordEnd | .wordStartHalf | .wordEndHalf => true

/-- A part without parts. -/
def atom (f : Flags) (a : Atom) (place : Extent) : Meaning Compiled :=
  match a with
  | .char c asByte => f.char c asByte place
  | .dot => f.dot place
  | .start => .ok (.boundary (if f.lines then .lineStart f.paired else .textStart) false)
  | .stop => .ok (.boundary (if f.lines then .lineEnd f.paired else .textEnd) false)
  | .boundary b => .ok (.boundary b (isAboutWords b && !f.ascii))
  | .charSet ascii negated => (f.asciiSet ascii negated place).map .ofSet
  | .property name => (f.property name place).map .ofSet

end Flags

mutual

/-- What a pattern stands for under given flags, and the flags for what follows. -/
def Tree.meaning (f : Flags) : Tree → Meaning (Compiled × Flags)
  | .empty _ => .ok (.empty, f)
  | .atom a place => do return (← f.atom a place, f)
  | .charClass c => do return (.ofSet (← c.members f).set, f)
  | .flags items _ => .ok (.sequence [], f.change items)
  | .times t count _ => do
    let (c, f) ← Tree.meaning f t
    return (c.times count, f)
  | .group t .captured _ => do return ((← Tree.meaning f t).1.captured, f)
  | .group t (.flagged items) _ => do return ((← Tree.meaning (f.change items) t).1, f)
  | .alternatives ts _ => do
    let (cs, f) ← Tree.meanings f [] ts
    return (.either cs, f)
  | .sequence ts _ => do
    let (cs, f) ← Tree.meanings f [] ts
    return (.sequence cs, f)

/-- What patterns stand for of which each follows the one before, after others that come last
first. -/
def Tree.meanings (f : Flags) (before : List Compiled) :
    List Tree → Meaning (List Compiled × Flags)
  | [] => .ok (before.reverse, f)
  | t :: ts => do
    let (c, f) ← Tree.meaning f t
    Tree.meanings f (c :: before) ts

end

/-- The number of parts of a pattern that may lie in each other. -/
def depthLimit : Nat := 250

/-- Reads a pattern. -/
def read (cs : List Char) : Except Mistake Pattern := do
  let t ← Tree.read cs
  match t.tooDeep? depthLimit with
  | some place => restricted .nestedTooDeep place
  | none => (← t.meaning .default).1.check

/-- Whether a pattern that can be read occurs in a text. -/
def readAndSearch (pattern text : String) : Option Bool :=
  (read pattern.toList).toOption.map (·.occursIn text.toList)

example : readAndSearch "^a(b|c)+$" "abcb" = some true := by decide +kernel
example : readAndSearch "x{2,3}y" "xy" = some false := by decide +kernel
example : readAndSearch "[^a-c]." "abc\n" = some false := by decide +kernel
example : readAndSearch "(?x) \\x4 1 # a letter" "A" = some true := by decide +kernel
example : readAndSearch "(a" "a" = none := by decide +kernel

end RuntimeSupport.Log.Pattern

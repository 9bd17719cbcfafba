import RuntimeSupport.Log.Pattern
import RuntimeSupport.Log.Pattern.Mistake

/-!
Patterns as they are written: a tree of the parts, each with the place where it stands.  The tree
says nothing yet of what the parts mean, which depends on the flags that hold where they stand.

`Tree.tooDeep?` finds parts that lie too deep in others.
-/

namespace RuntimeSupport.Log.Pattern

/-- A part of a pattern that has no parts of its own. -/
inductive Atom
  /-- A character.  Its number may have been written as that of a byte. -/
  | char (c : Char) (asByte : Bool)
  /-- Any character. -/
  | dot
  /-- The start of the text, or of a line. -/
  | start
  /-- The end of the text, or of a line. -/
  | stop
  /-- A question about a place. -/
  | boundary (b : Boundary)
  /-- A class of characters, of which the ASCII ones are given, or the characters outside of it. -/
  | charSet (ascii : CharSet) (negated : Bool)
  /-- The characters with some property, or those without it. -/
  | property (name : List Char)
  deriving DecidableEq, Repr

/-- A character in a class. -/
structure Member where
  /-- The character. -/
  char : Char
  /-- Whether its number has been written as that of a byte. -/
  asByte : Bool
  /-- Where it stands. -/
  place : Extent
  deriving DecidableEq, Repr

/-- An operation on sets of characters. -/
inductive Operation
  /-- The characters of both. -/
  | inter
  /-- The characters of the first one that are not in the second one. -/
  | diff
  /-- The characters that are in one of them only. -/
  | symmDiff
  deriving DecidableEq, Repr

/-- The set that results. -/
def Operation.apply : Operation → CharSet → CharSet → CharSet
  | inter => .inter
  | diff => .diff
  | symmDiff => .symmDiff

/-- A class of characters, or a part of one. -/
inductive CharClass
  /-- No characters. -/
  | nothing (place : Extent)
  /-- A character. -/
  | member (m : Member)
  /-- The characters from one to another. -/
  | range (first last : Member)
  /-- A class of characters, of which the ASCII ones are given, or the characters outside of it. -/
  | charSet (ascii : CharSet) (negated : Bool) (place : Extent)
  /-- The characters with some property, or those without it. -/
  | property (name : List Char) (place : Extent)
  /-- A class of ASCII characters with a name, or the characters outside of it. -/
  | named (set : CharSet) (negated : Bool) (place : Extent)
  /-- The characters of several classes. -/
  | union (parts : List CharClass) (place : Extent)
  /-- A class in brackets, or the characters outside of it. -/
  | closed (inner : CharClass) (negated : Bool) (place : Extent)
  /-- What an operation makes of two classes. -/
  | operation (op : Operation) (left right : CharClass) (place : Extent)
  deriving Repr

/-- Where a class stands. -/
def CharClass.place : CharClass → Extent
  | nothing place => place
  | member m => m.place
  | range first last => ⟨first.place.start, last.place.stop⟩
  | charSet _ _ place => place
  | property _ place => place
  | named _ _ place => place
  | union _ place => place
  | closed _ _ place => place
  | operation _ _ _ place => place

/-- A flag as it is written. -/
structure FlagItem where
  /-- Its letter, or the minus sign that takes back the flags after it. -/
  letter : Char
  /-- Where it is written. -/
  place : Nat
  deriving DecidableEq, Repr

/-- How often something is repeated. -/
structure Repetition where
  /-- The least number of times. -/
  least : Nat
  /-- The greatest number of times, if there is one. -/
  most : Option Nat
  deriving DecidableEq, Repr

/-- What a group is for. -/
inductive GroupKind
  /-- The group is there to be referred to. -/
  | captured
  /-- The group is under flags of its own. -/
  | flagged (items : List FlagItem)
  deriving DecidableEq, Repr

/-- A pattern as it is written. -/
inductive Tree
  /-- Nothing is written. -/
  | empty (place : Extent)
  /-- A part without parts. -/
  | atom (a : Atom) (place : Extent)
  /-- A class of characters. -/
  | charClass (c : CharClass)
  /-- Flags for the rest of the group. -/
  | flags (items : List FlagItem) (place : Extent)
  /-- A part that is repeated. -/
  | times (t : Tree) (count : Repetition) (place : Extent)
  /-- A group. -/
  | group (t : Tree) (kind : GroupKind) (place : Extent)
  /-- Several parts of which one is to match. -/
  | alternatives (ts : List Tree) (place : Extent)
  /-- Several parts one after the other. -/
  | sequence (ts : List Tree) (place : Extent)
  deriving Repr

namespace Tree

/-- Where a part stands. -/
def place : Tree → Extent
  | empty place => place
  | atom _ place => place
  | charClass c => c.place
  | flags _ place => place
  | times _ _ place => place
  | group _ _ place => place
  | alternatives _ place => place
  | sequence _ place => place

/-- Whether a part can be repeated. -/
def isRepeatable : Tree → Bool
  | empty _ | flags .. => false
  | _ => true

end Tree

/-! ## Depth -/

mutual

/-- The place of the first part of a class that lies in more than so many others. -/
def CharClass.tooDeep? (room : Nat) : CharClass → Option Extent
  | .union parts place =>
    match room with
    | 0 => some place
    | room + 1 => CharClass.anyTooDeep? room parts
  | .closed inner _ place =>
    match room with
    | 0 => some place
    | room + 1 => CharClass.tooDeep? room inner
  | .operation _ left right place =>
    match room with
    | 0 => some place
    | room + 1 => (CharClass.tooDeep? room left).or (CharClass.tooDeep? room right)
  | _ => none

/-- The first such place in one of some parts. -/
def CharClass.anyTooDeep? (room : Nat) : List CharClass → Option Extent
  | [] => none
  | c :: cs =>
    match CharClass.tooDeep? room c with
    | some place => some place
    | none => CharClass.anyTooDeep? room cs

end

mutual

/-- The place of the first part of a pattern that lies in more than so many others.  What has no
parts of its own never lies too deep. -/
def Tree.tooDeep? (room : Nat) : Tree → Option Extent
  | .charClass c => c.tooDeep? room
  | .times t _ place =>
    match room with
    | 0 => some place
    | room + 1 => Tree.tooDeep? room t
  | .group t _ place =>
    match room with
    | 0 => some place
    | room + 1 => Tree.tooDeep? room t
  | .alternatives ts place =>
    match room with
    | 0 => some place
    | room + 1 => Tree.anyTooDeep? room ts
  | .sequence ts place =>
    match room with
    | 0 => some place
    | room + 1 => Tree.anyTooDeep? room ts
  | _ => none

/-- The first such place in one of some parts. -/
def Tree.anyTooDeep? (room : Nat) : List Tree → Option Extent
  | [] => none
  | t :: ts =>
    match Tree.tooDeep? room t with
    | some place => some place
    | none => Tree.anyTooDeep? room ts

end

end RuntimeSupport.Log.Pattern

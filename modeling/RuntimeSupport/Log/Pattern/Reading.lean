import RuntimeSupport.Log.Pattern.Bracket
import RuntimeSupport.Text.Letter

/-!
Reading a pattern into the tree of its parts.  The groups that are not closed yet are kept in a
`Nesting`; every part that is read is added to the innermost one.
-/

namespace RuntimeSupport.Log.Pattern

/-! ## Groups -/

/-- A group that is not closed yet, or the whole pattern. -/
structure Group where
  /-- Where it starts behind its parenthesis. -/
  start : Nat
  /-- The alternatives that are complete, of which the last comes first. -/
  complete : List Tree
  /-- Where the last alternative starts. -/
  latest : Nat
  /-- The parts of the last alternative, of which the last comes first. -/
  parts : List Tree

namespace Group

/-- A group of which nothing has been read. -/
def opened (start : Nat) : Group := ⟨start, [], start, []⟩

/-- A group with one more part. -/
def push (g : Group) (part : Tree) : Group := { g with parts := part :: g.parts }

/-- The last alternative, which ends at a given place. -/
def last (g : Group) (stop : Nat) : Tree :=
  match g.parts with
  | [] => .empty ⟨g.latest, stop⟩
  | [one] => one
  | _ => .sequence g.parts.reverse ⟨g.latest, stop⟩

/-- A group that goes on with another alternative behind a sign at a given place. -/
def branch (g : Group) (place : Nat) : Group :=
  ⟨g.start, g.last place :: g.complete, place + 1, []⟩

/-- What the group consists of, which ends at a given place. -/
def close (g : Group) (stop : Nat) : Tree :=
  if g.complete.isEmpty then g.last stop
  else .alternatives (g.last stop :: g.complete).reverse ⟨g.start, stop⟩

end Group

/-- The start of a group that is not closed yet. -/
structure Opening where
  /-- What the group is for. -/
  kind : GroupKind
  /-- Where its parenthesis stands. -/
  place : Nat
  /-- Whether blanks and comments are skipped behind the group. -/
  verbose : Bool
  /-- The group in which it lies. -/
  outer : Group

/-- A name of a group, and where it is given. -/
structure GroupName where
  /-- The name. -/
  name : List Char
  /-- Where it is given. -/
  place : Extent
  deriving DecidableEq, Repr

/-- What has been read of a pattern. -/
structure Nesting where
  /-- The innermost group. -/
  inner : Group
  /-- The groups around a place, of which the innermost comes first. -/
  openings : List Opening
  /-- The names that groups have been given. -/
  names : List GroupName

namespace Nesting

open Reader

/-- The nesting before the first part. -/
def start : Nesting := ⟨.opened 0, [], []⟩

/-- The nesting with one more part in the innermost group. -/
def push (n : Nesting) (part : Tree) : Nesting := { n with inner := n.inner.push part }

/-! ## Repetitions -/

/-- The part that is to be repeated and the nesting without it. -/
def repeated (n : Nesting) : Reader (Tree × Nesting) := do
  match n.inner.parts with
  | part :: parts =>
    if part.isRepeatable then return (part, { n with inner := { n.inner with parts } })
    else failBetween .repetitionMissing
  | [] => failBetween .repetitionMissing

/-- Reads one of the signs for repetitions, which may be followed by a sign that they are to be as
few as possible. -/
def readSign (n : Nesting) (count : Repetition) : Reader Nesting := do
  let (part, n) ← n.repeated
  skip 1
  let _ ← accept "?"
  return n.push (.times part count ⟨part.place.start, ← place⟩)

/-- Reads a number of repetitions, with blanks around it.  A number that is missing is not yet a
mistake. -/
def readNumber (limit : Nat) : Reader (Except Mistake Nat) := do
  let _ ← takeWhile Text.isBlank
  let start ← place
  let digits ← takeVisible Char.isDigit limit []
  let stop ← place
  let _ ← takeVisible Text.isBlank limit []
  let n := digits.foldl (fun n c => 10 * n + (c.toNat - '0'.toNat)) 0
  if digits = [] then return .error ⟨.countMissing, [⟨start, stop⟩]⟩
  else if n ≥ 0x1_0000_0000 then return .error ⟨.countInvalid, [⟨start, stop⟩]⟩
  else return .ok n

/-- Reads a range of numbers of repetitions in braces, of which the first one comes next. -/
def readCount (limit start : Nat) : Reader Repetition := do
  let close : Reader Unit := do
    if ← atEnd then fail .countUnclosed start (← place)
  close
  let least ← readNumber limit
  close
  let range ← if (← peek?) = some ',' then do
      next
      close
      if (← peek?) = some '\x7d' then
        pure (least.map fun n => Repetition.mk n none)
      else
        match least with
        | .error m => throw m
        | .ok n =>
          let most ← readNumber limit
          pure (most.map fun m => Repetition.mk n (some m))
    else pure (least.map fun n => Repetition.mk n (some n))
  match range with
  | .error m => throw m
  | .ok r =>
    if (← peek?) = some '\x7d' then
      next
      let _ ← accept "?"
      if r.most.any (· < r.least) then fail .countOrder start (← place)
      else return r
    else fail .countUnclosed start (← place)

/-- Reads a range of numbers of repetitions in braces. -/
def readBraces (n : Nesting) (limit : Nat) : Reader Nesting := do
  let start ← place
  let (part, n) ← n.repeated
  next
  let count ← readCount limit start
  return n.push (.times part count ⟨part.place.start, ← place⟩)

/-! ## Groups and flags -/

/-- Reads flags up to a closing parenthesis or a colon.  The last one comes first in the answer. -/
def readFlagItems (seen : List FlagItem) (place : Nat) : List Char → Except Mistake (List FlagItem)
  | [] => .error ⟨.flagUnfinished, [⟨place, place⟩]⟩
  | c :: cs =>
    let here : Extent := ⟨place, place + 1⟩
    if c = ':' || c = ')' then
      match seen with
      | ⟨'-', p⟩ :: _ => .error ⟨.flagDangling, [⟨p, p + 1⟩]⟩
      | _ => .ok seen
    else if c = '-' || ['i', 'm', 's', 'U', 'u', 'R', 'x'].contains c then
      match seen.find? (·.letter = c) with
      | some i =>
        .error ⟨if c = '-' then .flagNegatedTwice else .flagRepeated,
          [⟨i.place, i.place + 1⟩, here]⟩
      | none => readFlagItems (⟨c, place⟩ :: seen) (place + 1) cs
    else .error ⟨.flagUnknown, [here]⟩

/-- Whether blanks and comments are skipped under flags, where they are skipped or not outside. -/
def isVerbose (items : List FlagItem) (outside : Bool) : Bool :=
  let letters := items.map (·.letter)
  if letters.contains 'x' then (letters.takeWhile (· ≠ '-')).contains 'x' else outside

/-- Whether a name can hold a character, which may be the first one. -/
def isNameChar (first : Bool) (c : Char) : Bool :=
  c = '_' || Text.isLetter c
    || (!first && (c = '.' || c = '[' || c = ']' || Text.isNumber c))

/-- Reads the name of a group up to the sign that ends it. -/
def readName (names : List GroupName) : Reader GroupName := do
  let start ← place
  match ← peek? with
  | none => fail .nameUnfinished start start
  | some c =>
    if c ≠ '>' && !isNameChar true c then failHere .nameInvalid
    let name ← takeWhile (isNameChar false)
    let stop ← place
    match ← peek? with
    | none => fail .nameUnfinished stop stop
    | some c =>
      if c ≠ '>' then failHere .nameInvalid
      skip 1
      if name = [] then fail .nameEmpty start start
      match names.find? (·.name = name) with
      | some n => throw ⟨.nameRepeated, [n.place, ⟨start, stop⟩]⟩
      | none => return ⟨name, ⟨start, stop⟩⟩

/-- The nesting within one more group, of which the parenthesis stands at a given place. -/
def enter (n : Nesting) (kind : GroupKind) (start : Nat) : Reader Nesting := do
  let c ← get
  let opening : Opening := ⟨kind, start, c.verbose, n.inner⟩
  return { n with inner := .opened c.place, openings := opening :: n.openings }

/-- Reads how a group starts, or flags in parentheses. -/
def readOpening (n : Nesting) : Reader Nesting := do
  let start ← place
  next
  let inside ← place
  for ahead in ["?=", "?!", "?<=", "?<!"] do
    if ← accept ahead then fail .lookAround start (← place)
  let named ← do
    if ← accept "?P<" then pure true else accept "?<"
  if named then
    let name ← readName n.names
    enter { n with names := name :: n.names } .captured start
  else if ← accept "?" then
    if ← atEnd then fail .groupUnclosed start (start + 1)
    match readFlagItems [] (← place) (← get).rest with
    | .error m => throw m
    | .ok latest =>
      let items := latest.reverse
      skip items.length
      let verbose := isVerbose items (← get).verbose
      if ← accept ")" then
        if items = [] then fail .repetitionMissing inside inside
        setVerbose verbose
        return n.push (.flags items ⟨start, ← place⟩)
      else
        skip 1
        let n ← enter n (.flagged items) start
        setVerbose verbose
        return n
  else enter n .captured start

/-- Reads the end of a group. -/
def readClosing (n : Nesting) : Reader Nesting := do
  let stop ← place
  match n.openings with
  | [] => failHere .groupUnopened
  | o :: openings =>
    setVerbose o.verbose
    skip 1
    let group := Tree.group (n.inner.close stop) o.kind ⟨o.place, stop + 1⟩
    return { n with inner := o.outer.push group, openings }

/-! ## The whole pattern -/

/-- Reads a part that has no parts of its own, which is a single character. -/
def readSingle (n : Nesting) (a : Atom) : Reader Nesting := do
  let p ← place
  skip 1
  return n.push (.atom a ⟨p, p + 1⟩)

/-- Reads a part that starts with the given character, or a part of one. -/
def read (n : Nesting) (limit : Nat) (c : Char) : Reader Nesting := do
  match c with
  | '(' => n.readOpening
  | ')' => n.readClosing
  | '|' =>
    let p ← place
    skip 1
    return { n with inner := n.inner.branch p }
  | '?' => n.readSign ⟨0, some 1⟩
  | '*' => n.readSign ⟨0, none⟩
  | '+' => n.readSign ⟨1, none⟩
  | '\x7b' => n.readBraces limit
  | '[' => return n.push (.charClass (← Bracket.read limit))
  | '\\' =>
    let start ← place
    let a ← Escape.read limit
    return n.push (.atom a ⟨start, ← place⟩)
  | '.' => n.readSingle .dot
  | '^' => n.readSingle .start
  | '$' => n.readSingle .stop
  | c => n.readSingle (.char c false)

/-- The pattern, if every group is closed. -/
def finish (n : Nesting) : Reader Tree := do
  match n.openings with
  | [] => return n.inner.close (← place)
  | o :: _ => fail .groupUnclosed o.place (o.place + 1)

/-- Reads at most so many parts, up to the end of the pattern. -/
def readRest : Nat → Nesting → Reader Tree
  | 0, n => n.finish
  | limit + 1, n => do
    blanks
    match ← peek? with
    | none => n.finish
    | some c =>
      let n ← n.read limit c
      readRest limit n

end Nesting

/-- Reads a pattern as a tree. -/
def Tree.read (cs : List Char) : Except Mistake Tree :=
  match (Nesting.readRest (cs.length + 1) .start).run ⟨0, cs, false⟩ with
  | .ok t _ => .ok t
  | .error m _ => .error m

end RuntimeSupport.Log.Pattern

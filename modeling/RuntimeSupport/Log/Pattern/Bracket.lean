import RuntimeSupport.Log.Pattern.Escape

/-!
Reading character classes in brackets: characters, ranges of characters, named classes and further
classes, put together by union or by one of three operations on sets.
-/

namespace RuntimeSupport.Log.Pattern.Bracket

open Reader

/-- A class that is not closed yet. -/
structure Open where
  /-- Where it starts, with what may follow the bracket at once. -/
  place : Extent
  /-- Whether it stands for the characters outside of it. -/
  negated : Bool
  /-- The class before the last operation, and that operation. -/
  pending : Option (CharClass × Operation)
  /-- Where the parts after the last operation start. -/
  start : Nat
  /-- The parts that have been read since then, of which the last comes first. -/
  parts : List CharClass

/-- A class with one more part. -/
def Open.add (b : Open) (part : CharClass) : Open := { b with parts := part :: b.parts }

/-- The parts since the last operation. -/
def Open.tail (b : Open) : CharClass :=
  match b.parts with
  | [] => .nothing ⟨b.start, b.start⟩
  | [one] => one
  | last :: _ =>
    let parts := b.parts.reverse
    .union parts ⟨(parts.head?.map (·.place.start)).getD b.start, last.place.stop⟩

/-- What has been read of a class. -/
def Open.inner (b : Open) : CharClass :=
  match b.pending with
  | none => b.tail
  | some (left, op) => .operation op left b.tail ⟨left.place.start, b.tail.place.stop⟩

/-- A class that goes on with the second class of an operation. -/
def Open.operate (b : Open) (op : Operation) (start : Nat) : Open :=
  { b with pending := some (b.inner, op), start, parts := [] }

/-- The named classes of ASCII characters. -/
def names : List (String × CharSet) :=
  let lower := CharSet.range 'a' 'z'
  let upper := CharSet.range 'A' 'Z'
  let digit := CharSet.range '0' '9'
  [("alnum", .ofList [digit, upper, lower]), ("alpha", .union upper lower),
    ("ascii", .range '\x00' '\x7f'), ("blank", .union (.ofChar '\t') (.ofChar ' ')),
    ("cntrl", .union (.range '\x00' '\x1f') (.ofChar '\x7f')), ("digit", digit),
    ("graph", .range '!' '~'), ("lower", lower), ("print", .range ' ' '~'),
    ("punct", .ofList [.range '!' '/', .range ':' '@', .range '[' (Char.ofNat 0x60),
      .range '\x7b' '~']),
    ("space", .union (.range '\t' '\r') (.ofChar ' ')), ("upper", upper), ("word", .word),
    ("xdigit", .ofList [digit, .range 'A' 'F', .range 'a' 'f'])]

/-- Reads a named class, if one comes next. -/
def readNamed? : Reader (Option CharClass) := do
  let start ← get
  if ← accept "[:" then
    let negated ← accept "^"
    let name := String.ofList (← takeWhile (· ≠ ':'))
    if ← accept ":]" then
      if let some set := names.lookup name then
        return some (.named set negated ⟨start.place, ← place⟩)
  set start
  return none

/-- Reads hyphens that stand for themselves at the start of a class, after others. -/
def readHyphens (start : Nat) : Nat → List CharClass → Reader (List CharClass)
  | 0, seen => return seen
  | limit + 1, seen => do
    if (← peek?) = some '-' then
      let p ← place
      next
      if ← atEnd then fail .classUnclosed start start
      readHyphens start limit (.member ⟨'-', false, ⟨p, p + 1⟩⟩ :: seen)
    else return seen

/-- Reads how a class starts: the bracket, a sign that negates the class, and hyphens or a closing
bracket that stand for themselves there. -/
def readOpen (limit : Nat) : Reader Open := do
  let start ← place
  next
  if ← atEnd then fail .classUnclosed start (← place)
  let negated := (← peek?) = some '^'
  if negated then
    next
    if ← atEnd then fail .classUnclosed start (← place)
  let inside ← place
  let mut parts ← readHyphens start limit []
  if parts.isEmpty && (← peek?) = some ']' then
    next
    if ← atEnd then fail .classUnclosed start (← place)
    parts := [.member ⟨']', false, ⟨inside, inside + 1⟩⟩]
  return ⟨⟨start, ← place⟩, negated, none, inside, parts⟩

/-- Reads a character or an escape sequence. -/
def readItem (limit : Nat) : Reader (Atom × Extent) := do
  let start ← place
  match ← peek? with
  | some '\\' =>
    let a ← Escape.read limit
    return (a, ⟨start, ← place⟩)
  | some c =>
    skip 1
    return (.char c false, ⟨start, start + 1⟩)
  | none => failBetween .classUnclosed

/-- Reads a part of a class: an item, or two with a hyphen between that are the ends of a range. -/
def readPart (limit : Nat) (b : Open) : Reader CharClass := do
  let (first, place) ← readItem limit
  blanks
  if ← atEnd then throw ⟨.classUnclosed, [b.place]⟩
  let beyond ← peekBeyond?
  if (← peek?) ≠ some '-' || beyond = some ']' || beyond = some '-' then
    match first with
    | .char c asByte => return .member ⟨c, asByte, place⟩
    | .charSet ascii negated => return .charSet ascii negated place
    | .property name => return .property name place
    | _ => fail .classEscape place.start place.stop
  else
    next
    if ← atEnd then throw ⟨.classUnclosed, [b.place]⟩
    let (last, place') ← readItem limit
    match first, last with
    | .char c asByte, .char c' asByte' =>
      if c' < c then fail .classRangeOrder place.start place'.stop
      else return .range ⟨c, asByte, place⟩ ⟨c', asByte', place'⟩
    | .char .., _ => fail .classRangeEnd place'.start place'.stop
    | _, _ => fail .classRangeEnd place.start place.stop

/-- Reads on in a class and those around it, up to the end of the outermost one. -/
def readRest : Nat → Open → List Open → Reader CharClass
  | 0, b, _ => throw ⟨.classUnclosed, [b.place]⟩
  | limit + 1, b, outer => do
    let operate (op : Operation) : Reader Open := do
      skip 2
      return b.operate op (← place)
    blanks
    match (← get).rest with
    | [] => throw ⟨.classUnclosed, [b.place]⟩
    | '[' :: _ =>
      match ← readNamed? with
      | some part => readRest limit (b.add part) outer
      | none =>
        let inner ← readOpen limit
        readRest limit inner (b :: outer)
    | ']' :: _ =>
      skip 1
      let whole := CharClass.closed b.inner b.negated ⟨b.place.start, ← place⟩
      match outer with
      | [] => return whole
      | next :: others => readRest limit (next.add whole) others
    | '&' :: '&' :: _ => readRest limit (← operate .inter) outer
    | '-' :: '-' :: _ => readRest limit (← operate .diff) outer
    | '~' :: '~' :: _ => readRest limit (← operate .symmDiff) outer
    | _ :: _ =>
      let part ← readPart limit b
      readRest limit (b.add part) outer

/-- Reads a class, of which the bracket comes next. -/
def read (limit : Nat) : Reader CharClass := do
  let b ← readOpen limit
  readRest limit b []

end RuntimeSupport.Log.Pattern.Bracket

import RuntimeSupport.Log.Pattern.Cursor
import RuntimeSupport.Log.Pattern.Tree

/-!
Escape sequences of patterns, which start with a backslash: characters that would have a meaning of
their own otherwise, characters by their numbers, classes of characters, and questions about a
place.  Readers that take a limit read at most so many characters one by one.
-/

namespace RuntimeSupport.Log.Pattern.Escape

open Reader

/-- The value of a hexadecimal digit. -/
def hexValue? (c : Char) : Option Nat :=
  if c.isDigit then some (c.toNat - '0'.toNat)
  else if 'a' ≤ c && c ≤ 'f' then some (c.toNat - 'a'.toNat + 10)
  else if 'A' ≤ c && c ≤ 'F' then some (c.toNat - 'A'.toNat + 10)
  else none

/-- The number that hexadecimal digits stand for. -/
def hexNumber (digits : List Char) : Nat :=
  digits.foldl (fun n c => 16 * n + (hexValue? c).getD 0) 0

/-- The character with a number, if there is one. -/
def ofCode? (n : Nat) : Option Char := if n.isValidChar then some (Char.ofNat n) else none

/-- Reads so many hexadecimal digits after others.  Blanks and comments may stand behind each. -/
def readDigits (seen : List Char) : Nat → Reader (List Char)
  | 0 => return seen.reverse
  | count + 1 => do
    match ← peek? with
    | none => failBetween .escapeUnfinished
    | some c =>
      if (hexValue? c).isNone then failHere .codeDigit
      else
        next
        readDigits (c :: seen) count

/-- Reads a character by its number, which has so many digits or stands in braces. -/
def readCode (limit digits : Nat) : Reader Atom := do
  if ← atEnd then failBetween .escapeUnfinished
  let start ← place
  if (← peek?) = some '\x7b' then
    next
    let cs ← takeVisible (fun c => (hexValue? c).isSome) limit []
    let stop ← place
    match ← peek? with
    | none => fail .escapeUnfinished start stop
    | some c =>
      if c ≠ '\x7d' then failHere .codeDigit
      else
        next
        if cs = [] then fail .codeEmpty start (← place)
        else
          match ofCode? (hexNumber cs) with
          | some c => return .char c false
          | none => fail .codeInvalid (start + 1) stop
  else
    let cs ← readDigits [] digits
    match ofCode? (hexNumber cs) with
    | some c => return .char c (digits == 2)
    | none => fail .codeInvalid start (← place)

/-- Reads the name of a property of characters: one letter, or a text in braces. -/
def readProperty (limit : Nat) : Reader Atom := do
  match ← peek? with
  | none => failBetween .escapeUnfinished
  | some c =>
    if c = '\\' then failHere .propertyInvalid
    else if c = '\x7b' then
      next
      let name ← takeVisible (· ≠ '\x7d') limit []
      if ← atEnd then failBetween .escapeUnfinished
      skip 1
      return .property name
    else
      next
      return .property [c]

/-- Whether a character can be in the name of a kind of word boundary. -/
def isKindChar (c : Char) : Bool := c.isAlpha || c = '-'

/-- Reads which kind of word boundary is asked for, if braces with letters follow. -/
def readBoundary (limit start : Nat) : Reader Atom := do
  let brace ← get
  if brace.rest.head? ≠ some '\x7b' then return .boundary .word
  next
  let inside ← place
  match ← peek? with
  | none => fail .boundaryUnfinished start inside
  | some c =>
    if isKindChar c then
      let name ← takeVisible isKindChar limit []
      let stop ← place
      if ← accept "\x7d" then
        match String.ofList name with
        | "start" => return .boundary .wordStart
        | "end" => return .boundary .wordEnd
        | "start-half" => return .boundary .wordStartHalf
        | "end-half" => return .boundary .wordEndHalf
        | _ => fail .boundaryUnknown inside stop
      else fail .boundaryUnclosed brace.place stop
    else
      set brace
      return .boundary .word

/-- The ASCII digits. -/
def digits : CharSet := .range '0' '9'

/-- The ASCII blanks. -/
def blanks : CharSet := .union (.range '\t' '\r') (.ofChar ' ')

/-- Reads an escape sequence, of which the backslash comes next. -/
def read (limit : Nat) : Reader Atom := do
  let start ← place
  skip 1
  match ← peek? with
  | none => fail .escapeUnfinished start (start + 1)
  | some c =>
    if c.isDigit then fail .backreference start (start + 2)
    else if c = 'x' || c = 'u' || c = 'U' then
      next
      readCode limit (if c = 'x' then 2 else if c = 'u' then 4 else 8)
    else if c = 'p' || c = 'P' then
      next
      readProperty limit
    else
      skip 1
      match c with
      | 'd' => return .charSet digits false
      | 'D' => return .charSet digits true
      | 's' => return .charSet blanks false
      | 'S' => return .charSet blanks true
      | 'w' => return .charSet .word false
      | 'W' => return .charSet .word true
      | 'a' => return .char '\x07' false
      | 'f' => return .char '\x0c' false
      | 't' => return .char '\t' false
      | 'n' => return .char '\n' false
      | 'r' => return .char '\r' false
      | 'v' => return .char '\x0b' false
      | 'A' => return .boundary .textStart
      | 'z' => return .boundary .textEnd
      | 'b' => readBoundary limit start
      | 'B' => return .boundary .notWord
      | '<' => return .boundary .wordStart
      | '>' => return .boundary .wordEnd
      | c =>
        if c.isAlpha || c.toNat ≥ 0x80 then fail .escapeUnknown start (start + 2)
        else return .char c false

end RuntimeSupport.Log.Pattern.Escape

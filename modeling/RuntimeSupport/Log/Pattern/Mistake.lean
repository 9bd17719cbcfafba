import RuntimeSupport.Numeral
import RuntimeSupport.Text.Parts

/-!
What can be wrong with a pattern, and how it is shown: the pattern, marks under the place at fault,
and the cause.
-/

namespace RuntimeSupport.Log.Pattern

/-- A stretch of a pattern. -/
structure Extent where
  /-- The number of characters before it. -/
  start : Nat
  /-- The number of characters up to its end. -/
  stop : Nat
  deriving DecidableEq, Repr

/-- What is wrong. -/
inductive Cause
  /-- Reference to a group that has matched before. -/
  | backreference
  /-- An escape sequence in a character class that stands for no set of characters. -/
  | classEscape
  /-- A range of characters that ends before it starts. -/
  | classRangeOrder
  /-- A range of characters with an end that is no character. -/
  | classRangeEnd
  /-- A character class without its closing bracket. -/
  | classUnclosed
  /-- A number with too many digits. -/
  | countInvalid
  /-- A number of repetitions without digits. -/
  | countMissing
  /-- A range of numbers that ends before it starts. -/
  | countOrder
  /-- A number of repetitions without its closing brace. -/
  | countUnclosed
  /-- A code point without digits. -/
  | codeEmpty
  /-- A number that is no code point. -/
  | codeInvalid
  /-- A code point with something that is no digit. -/
  | codeDigit
  /-- An escape sequence that breaks off. -/
  | escapeUnfinished
  /-- An escape sequence that stands for nothing. -/
  | escapeUnknown
  /-- A minus sign without flags after it. -/
  | flagDangling
  /-- A flag that stands there twice. -/
  | flagRepeated
  /-- A second minus sign between flags. -/
  | flagNegatedTwice
  /-- Flags that break off. -/
  | flagUnfinished
  /-- A letter that is no flag. -/
  | flagUnknown
  /-- A name for a second group. -/
  | nameRepeated
  /-- A name of no characters. -/
  | nameEmpty
  /-- A character that no name holds. -/
  | nameInvalid
  /-- A name that breaks off. -/
  | nameUnfinished
  /-- A group without its closing parenthesis. -/
  | groupUnclosed
  /-- A closing parenthesis without its group. -/
  | groupUnopened
  /-- A number of repetitions of nothing. -/
  | repetitionMissing
  /-- A kind of word boundary that does not end. -/
  | boundaryUnclosed
  /-- An unknown kind of word boundary. -/
  | boundaryUnknown
  /-- A brace after a word boundary at the end of the pattern. -/
  | boundaryUnfinished
  /-- A class of characters by a property that breaks off. -/
  | propertyInvalid
  /-- A question about the text ahead or behind. -/
  | lookAround
  /-- A pattern in which parts lie too deep in others. -/
  | nestedTooDeep
  /-- A property of characters that needs more than their numbers. -/
  | propertyUnavailable
  /-- A category of characters that needs more than their numbers. -/
  | categoryUnavailable
  /-- One of the classes of digits, blanks and characters of words. -/
  | classUnavailable
  /-- Letters that may be large or small. -/
  | caseUnavailable
  /-- A word boundary. -/
  | wordUnavailable
  /-- A pattern that takes too much room. -/
  | tooLarge
  /-- A property or a character where there are only bytes. -/
  | charactersDisabled
  /-- A class of bytes that are no ASCII characters. -/
  | bytesInvalid
  deriving DecidableEq, Repr

/-- The text for a cause. -/
def Cause.message : Cause → String
  | .backreference => "backreferences are not supported"
  | .classEscape => "invalid escape sequence found in character class"
  | .classRangeOrder => "invalid character class range, the start must be <= the end"
  | .classRangeEnd => "invalid range boundary, must be a literal"
  | .classUnclosed => "unclosed character class"
  | .countInvalid => "decimal literal invalid"
  | .countMissing => "repetition quantifier expects a valid decimal"
  | .countOrder => "invalid repetition count range, the start must be <= the end"
  | .countUnclosed => "unclosed counted repetition"
  | .codeEmpty => "hexadecimal literal empty"
  | .codeInvalid => "hexadecimal literal is not a Unicode scalar value"
  | .codeDigit => "invalid hexadecimal digit"
  | .escapeUnfinished => "incomplete escape sequence, reached end of pattern prematurely"
  | .escapeUnknown => "unrecognized escape sequence"
  | .flagDangling => "dangling flag negation operator"
  | .flagRepeated => "duplicate flag"
  | .flagNegatedTwice => "flag negation operator repeated"
  | .flagUnfinished => "expected flag but got end of regex"
  | .flagUnknown => "unrecognized flag"
  | .nameRepeated => "duplicate capture group name"
  | .nameEmpty => "empty capture group name"
  | .nameInvalid => "invalid capture group character"
  | .nameUnfinished => "unclosed capture group name"
  | .groupUnclosed => "unclosed group"
  | .groupUnopened => "unopened group"
  | .repetitionMissing => "repetition operator missing expression"
  | .boundaryUnclosed =>
    "special word boundary assertion is either unclosed or contains an invalid character"
  | .boundaryUnknown =>
    "unrecognized special word boundary assertion, valid choices are: start, end, start-half " ++
      "or end-half"
  | .boundaryUnfinished =>
    "found either the beginning of a special word boundary or a bounded repetition on a \\b " ++
      "with an opening brace, but no closing brace"
  | .propertyInvalid => "invalid Unicode character class"
  | .lookAround => "look-around, including look-ahead and look-behind, is not supported"
  | .nestedTooDeep => "exceed the maximum number of nested parentheses/brackets (250)"
  | .propertyUnavailable => "Unicode property not found"
  | .categoryUnavailable => "Unicode property value not found"
  | .classUnavailable =>
    "Unicode-aware Perl class not found (make sure the unicode-perl feature is enabled)"
  | .caseUnavailable =>
    "Unicode-aware case insensitivity matching is not available (make sure the unicode-case " ++
      "feature is enabled)"
  | .wordUnavailable => "error building NFA"
  | .tooLarge => "Compiled regex exceeds size limit of 10485760 bytes."
  | .charactersDisabled => "Unicode not allowed here"
  | .bytesInvalid => "pattern can match invalid UTF-8"

/-- Something that is wrong with a pattern. -/
structure Mistake where
  /-- What is wrong. -/
  cause : Cause
  /-- Where, in increasing order. -/
  places : List Extent
  deriving DecidableEq, Repr

namespace Mistake

/-- Whether the mistake is noticed after the whole pattern has been read, so that no place of it is
at fault. -/
def isLate (m : Mistake) : Bool := m.cause = .wordUnavailable || m.cause = .tooLarge

/-- The line on which a place of a pattern lies and its column, both counted from zero. -/
def position (pattern : List Char) (place : Nat) : Nat × Nat :=
  let before := pattern.take place
  (before.count '\n', (before.reverse.takeWhile (· ≠ '\n')).length)

/-- Marks from given columns up to others, behind so many characters. -/
def marks (column : Nat) : List (Nat × Nat) → List Char
  | [] => []
  | (start, stop) :: rest =>
    let length := max 1 (stop - start)
    List.replicate (start - column) ' ' ++ List.replicate length '^'
      ++ marks (max column start + length) rest

/-- The lines of a pattern.  A line feed that ends the pattern starts no other line, and a carriage
return before a line feed belongs to the end of the line. -/
def lines (pattern : List Char) : List (List Char) :=
  let parts := Text.split '\n' pattern
  let ended := parts.dropLast.map fun line =>
    if line.getLast? = some '\r' then line.dropLast else line
  ended ++ parts.getLast?.toList.filter (· ≠ [])

example : lines "a\r\nb\r".toList = ["a".toList, "b\r".toList] := by decide +kernel

/-- The pattern with marks under the places that lie on one line.  Lines are numbered if there are
some. -/
def annotate (pattern : List Char) (places : List Extent) : List Char :=
  let lines := lines pattern
  let count := lines.length + if pattern.getLast? = some '\n' then 1 else 0
  let width := if count ≤ 1 then 0 else (Numeral.decimal count).length
  let label (n : Nat) : List Char :=
    if width = 0 then "    ".toList
    else (Numeral.decimal (n + 1)).toList.leftpad width ' ' ++ ": ".toList
  let marksOn (n : Nat) : List (Nat × Nat) := places.filterMap fun e =>
    let (line, column) := position pattern e.start
    let (line', column') := position pattern e.stop
    if line = n ∧ line' = n then some (column, column') else none
  (lines.zipIdx.flatMap fun (line, n) =>
    label n ++ line ++ '\n' ::
      if marksOn n = [] then []
      else List.replicate (if width = 0 then 4 else width + 2) ' ' ++ marks 0 (marksOn n) ++ ['\n'])

/-- What is said of the places that go beyond a line. -/
def spread (pattern : List Char) (places : List Extent) : List String :=
  places.filterMap fun e =>
    let (line, column) := position pattern e.start
    let (line', column') := position pattern e.stop
    if line = line' then none
    else some <|
      "on line " ++ Numeral.decimal (line + 1) ++ " (column " ++ Numeral.decimal (column + 1)
        ++ ") through line " ++ Numeral.decimal (line' + 1) ++ " (column "
        ++ Numeral.decimal column' ++ ")"

/-- The text that describes what is wrong with a pattern. -/
def describe (pattern : List Char) (m : Mistake) : String :=
  if m.isLate then m.cause.message
  else
    let notated := String.ofList (annotate pattern m.places)
    let rule :=
      if pattern.contains '\n' then String.ofList (List.replicate 79 '~' ++ ['\n']) else ""
    let notes := match spread pattern m.places with
      | [] => ""
      | notes => "\n".intercalate notes ++ "\n"
    "regex parse error:\n" ++ rule ++ notated ++ rule ++ notes ++ "error: " ++ m.cause.message

example : describe "a(b".toList ⟨.groupUnclosed, [⟨1, 2⟩]⟩ =
    "regex parse error:\n    a(b\n     ^\nerror: unclosed group" := by decide +kernel

end Mistake

end RuntimeSupport.Log.Pattern

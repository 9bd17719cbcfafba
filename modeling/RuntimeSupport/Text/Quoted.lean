import RuntimeSupport.Numeral
import RuntimeSupport.Text.Unprintable
import RuntimeSupport.Text.Combining

/-!
Quoted text, in which every character is visible: a value taken from the environment is shown this
way inside a message, so that blanks and control characters in it cannot be mistaken for part of the
message.
-/

namespace RuntimeSupport.Text

/-- A code point written as `u` and its hexadecimal digits between braces, after a backslash. -/
def escapeCodePoint (c : Char) : List Char :=
  ['\\', 'u', '\x7b'] ++ (Numeral.text .hexadecimal c.toNat).toList ++ ['\x7d']

/-- How a character is written between quotes.  Quotes and backslashes take a backslash, a few
controls have short names, and a character that would be invisible or would attach to its neighbour
is written by its code point. -/
def escape (c : Char) : List Char :=
  if c = '"' then ['\\', '"']
  else if c = '\\' then ['\\', '\\']
  else if c = '\x00' then ['\\', '0']
  else if c = '\t' then ['\\', 't']
  else if c = '\n' then ['\\', 'n']
  else if c = '\r' then ['\\', 'r']
  else if isCombining c || isUnprintable c then escapeCodePoint c
  else [c]

/-- Text between double quotes, with every character visible. -/
def quote (s : String) : String :=
  String.ofList ('"' :: (s.toList.flatMap escape ++ ['"']))

example : quote "a\tb" = "\"a\\tb\"" := by decide +kernel
example : quote "é\u00ad" = "\"é\\u\x7bad\x7d\"" := by decide +kernel

end RuntimeSupport.Text

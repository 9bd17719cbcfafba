import RuntimeSupport.Text.Terminal
import RuntimeSupport.Text.Utf8

/-!
Diagnostic records and the lines that they are printed as.
-/

namespace RuntimeSupport.Log

/-- How much a record matters; each level is more detailed than the one before. -/
inductive Level
  /-- Something failed. -/
  | error
  /-- Something is wrong but work goes on. -/
  | warn
  /-- Something worth knowing happened. -/
  | info
  /-- Something useful for finding faults happened. -/
  | debug
  /-- Anything at all happened. -/
  | trace
  deriving DecidableEq, Repr

namespace Level

/-- The degree of detail. -/
def detail : Level → Nat
  | error => 1
  | warn => 2
  | info => 3
  | debug => 4
  | trace => 5

/-- The name of a level. -/
def name : Level → String
  | error => "ERROR"
  | warn => "WARN"
  | info => "INFO"
  | debug => "DEBUG"
  | trace => "TRACE"

/-- All levels. -/
def all : List Level := [error, warn, info, debug, trace]

end Level

/-- Which part of a process a record comes from. -/
inductive Source
  /-- The fatal path. -/
  | fatal
  /-- The arguments. -/
  | arguments
  /-- Logging itself. -/
  | logging
  /-- Standard output. -/
  | output
  /-- The settings. -/
  | settings
  /-- Memory blocks. -/
  | blocks
  deriving DecidableEq, Repr

/-- The name of a source, which filters go by. -/
def Source.name : Source → String
  | .fatal => "aurt_ffi::fatal"
  | .arguments => "aurt_ffi::args"
  | .logging => "aurt_ffi::logging"
  | .output => "aurt_ffi::output"
  | .settings => "aurt_core::config"
  | .blocks => "aurt_memory::block"

/-- A diagnostic record. -/
structure Record where
  /-- How much it matters. -/
  level : Level
  /-- Where it comes from. -/
  source : Source
  /-- What it says. -/
  message : String
  deriving DecidableEq, Repr

/-- A text with the lines after the first one indented by four spaces. -/
def indent (cs : List Char) : List Char :=
  cs.flatMap fun c => if c = '\n' then "\n    ".toList else [c]

/-- The line of a record: its level, brought to five characters, its source and its message.  A
terminal that shows it is not meant to obey it, so what a terminal does not show is left out. -/
def Record.line (r : Record) : Bytes :=
  Text.visible <| Text.Utf8.encode <| String.ofList <|
    '[' :: r.level.name.toList.rightpad 5 ' ' ++ ' ' :: r.source.name.toList ++ "] ".toList
      ++ indent r.message.toList ++ ['\n']

end RuntimeSupport.Log

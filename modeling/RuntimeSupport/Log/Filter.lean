import RuntimeSupport.Log.Pattern.Meaning
import RuntimeSupport.Log.Record
import RuntimeSupport.Text.Blank
import RuntimeSupport.Text.Parts

/-!
Filters, which say what records are printed.  A filter is written as rules between commas; each sets
the most detailed level that is let through, for everything or for the sources whose names start
with a given text.  Of the rules that apply to a source the one with the longest text decides.
Behind a slash a filter can hold a pattern, which has to occur in what a record says.
-/

namespace RuntimeSupport.Log

/-- The most detailed level that is let through; `none` lets nothing through. -/
abbrev Limit := Option Level

/-- Whether a limit lets a level through. -/
def Limit.admits (limit : Limit) (level : Level) : Bool :=
  match limit with
  | none => false
  | some most => level.detail ≤ most.detail

/-- A rule of a filter. -/
structure Rule where
  /-- The start of the names of the sources that the rule is for; all sources if there is none. -/
  source : Option (List Char)
  /-- What the rule lets through. -/
  limit : Limit
  deriving DecidableEq, Repr

/-- A filter. -/
structure Filter where
  /-- The rules, in the order in which their sources were first named. -/
  rules : List Rule
  /-- What has to occur in a message, if anything has to. -/
  pattern : Option Pattern
  deriving DecidableEq, Repr

/-- Why a part of a filter is left out. -/
inductive Complaint
  /-- A rule makes no sense; the text is at fault. -/
  | rule (text : String)
  /-- There is more than one slash in the whole text. -/
  | slashes (text : String)
  /-- The pattern cannot be read. -/
  | pattern (text : List Char) (m : Pattern.Mistake)
  deriving DecidableEq, Repr

/-- What is said of a part that is left out. -/
def Complaint.describe : Complaint → String
  | .rule text => "invalid logging spec '" ++ text ++ "'"
  | .slashes text => "invalid logging spec '" ++ text ++ "' (too many '/'s)"
  | .pattern text m => "invalid regex filter - " ++ m.describe text

/-- What is printed about a part that is left out. -/
def Complaint.line (c : Complaint) : Bytes :=
  Text.Utf8.encode ("warning: " ++ c.describe ++ ", ignoring it\n")

/-- The limit with a given name, in upper or lower case. -/
def readLimit? (cs : List Char) : Option Limit :=
  let name := String.ofList (cs.map Char.toUpper)
  if name = "OFF" then some none
  else (Level.all.find? fun level => level.name = name).map some

namespace Rule

/-- Reads a rule: a limit for all sources, a source for which all is let through, or both with an
equals sign between.  A rule that makes no sense answers the text at fault. -/
def read (cs : List Char) : Except String Rule :=
  match Text.split '=' cs with
  | [one] =>
    match readLimit? one with
    | some limit => .ok ⟨none, limit⟩
    | none => .ok ⟨some one, some .trace⟩
  | [source, name] =>
    let name := Text.trimList name
    if name = [] then .ok ⟨some source, some .trace⟩
    else
      match readLimit? name with
      | some limit => .ok ⟨some source, limit⟩
      | none => .error (String.ofList name)
  | _ => .error (String.ofList cs)

/-- Whether a rule is for a source. -/
def applies (r : Rule) (source : List Char) : Bool := (r.source.getD []).isPrefixOf source

/-- The length of the text that a rule goes by. -/
def weight (r : Rule) : Nat := (r.source.getD []).length

end Rule

namespace Filter

/-- Rules with one more.  A rule for the same source is replaced. -/
def addRule (rules : List Rule) (r : Rule) : List Rule :=
  if rules.any (·.source = r.source) then
    rules.map fun old => if old.source = r.source then r else old
  else rules ++ [r]

/-- The rule that lets errors through, of a filter without rules. -/
def fallback : Rule := ⟨none, some .error⟩

/-- Reads the rules of a filter.  Those that make no sense are left out, and reported. -/
def readRules (cs : List Char) : List Rule × List Complaint :=
  let parts := ((Text.split ',' cs).map Text.trimList).filter (· ≠ [])
  let rules := parts.map Rule.read
  (rules.foldl (fun rules r => match r with
    | .ok r => addRule rules r
    | .error _ => rules) [],
  rules.filterMap fun r => match r with
    | .ok _ => none
    | .error text => some (.rule text))

/-- Reads the pattern of a filter, if it has one.  A pattern that makes no sense is left out, and
reported. -/
def readPattern (cs : Option (List Char)) : Option Pattern × List Complaint :=
  match cs with
  | none => (none, [])
  | some cs =>
    match Pattern.read cs with
    | .ok p => (some p, [])
    | .error m => (none, [.pattern cs m])

/-- Reads the rules and the pattern of a filter. -/
def readParts (rules : List Char) (pattern : Option (List Char)) : Filter × List Complaint :=
  let (rules, complaints) := readRules rules
  let (pattern, complaints') := readPattern pattern
  (⟨if rules = [] then [fallback] else rules, pattern⟩, complaints ++ complaints')

/-- Reads a filter, and reports what is left out of it. -/
def read (s : String) : Filter × List Complaint :=
  match Text.split '/' s.toList with
  | [] => readParts [] none
  | [rules] => readParts rules none
  | [rules, pattern] => readParts rules (some pattern)
  | _ => (⟨[fallback], none⟩, [.slashes s])

/-- The heavier of two rules, and of equally heavy ones the second. -/
def prefer (best : Option Rule) (r : Rule) : Option Rule :=
  match best with
  | some b => if b.weight ≤ r.weight then some r else some b
  | none => some r

/-- The rule that decides for a source: of those that apply, the one with the longest text. -/
def rule? (f : Filter) (source : List Char) : Option Rule :=
  (f.rules.filter (·.applies source)).foldl prefer none

/-- Whether a filter lets a level of a source through.  Without a rule for the source it does not.
-/
def allows (f : Filter) (source : Source) (level : Level) : Bool :=
  match f.rule? source.name.toList with
  | some rule => rule.limit.admits level
  | none => false

/-- Whether a record is printed. -/
def admits (f : Filter) (r : Record) : Bool :=
  f.allows r.source r.level && f.pattern.all (·.occursIn r.message.toList)

example : (read "off,aurt_ffi::fatal=error").1.admits ⟨.error, .fatal, ""⟩ = true := by
  decide +kernel
example : (read "aurt_mem=trace").1.admits ⟨.error, .fatal, ""⟩ = false := by decide +kernel
example : (read "error/d.n").1.admits ⟨.error, .fatal, "fatal: done"⟩ = true := by decide +kernel

end Filter

end RuntimeSupport.Log

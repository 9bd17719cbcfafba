import RuntimeSupport.Log.Logger
import RuntimeSupport.Proofs.Log.Line

/-!
# What is asked of a logger

Results about the diagnostics of a program hold for any logger that does what they ask of it: that
it understands a text as a limit (`Logger.Sets`), or that it writes whole lines
(`Logger.WritesLines`).  The logger of this library does both.
-/

namespace RuntimeSupport.Log

/-- A text stands for a limit: with it a logger writes the records that keep to the limit, wherever
they come from, and finds no fault with the text. -/
structure Logger.Sets (l : Logger) (text : String) (limit : Limit) : Prop where
  admits : ∀ r, (l.read text).1 r = limit.admits r.level
  complaints : (l.read text).2 = []

/-- A logger writes whole lines: of a record that starts no control sequence, and of what it leaves
out of a filter. -/
structure Logger.WritesLines (l : Logger) : Prop where
  line : ∀ r : Record, Text.Plain r.message → EndsLine (l.line r)
  complaints : ∀ text, EndsLine (l.read text).2

lemma Logger.lines_cons (l : Logger) (r : Record) (rs : List Record) :
    l.lines (r :: rs) = l.line r ++ l.lines rs := List.flatMap_cons

lemma Logger.lines_append (l : Logger) (rs rs' : List Record) :
    l.lines (rs ++ rs') = l.lines rs ++ l.lines rs' := List.flatMap_append

/-! ## The logger of this library -/

/-- The filter with a limit for all sources. -/
def Filter.ofLimit (limit : Limit) : Filter := ⟨[⟨none, limit⟩], none⟩

lemma Filter.admits_ofLimit (limit : Limit) (r : Record) :
    (Filter.ofLimit limit).admits r = limit.admits r.level := by
  simp [ofLimit, admits, allows, rule?, Rule.applies, prefer]

lemma Logger.sets_standard {text : String} {limit : Limit}
    (h : Filter.read text = (.ofLimit limit, [])) : standard.Sets text limit where
  admits r := by
    show (Filter.read text).1.admits r = limit.admits r.level
    rw [h, Filter.admits_ofLimit]
  complaints := by
    show (Filter.read text).2.flatMap Complaint.line = []
    rw [h, List.flatMap_nil]

lemma Logger.sets_standard_off : standard.Sets "off" none := sets_standard (by decide +kernel)

lemma Logger.sets_standard_warn : standard.Sets "warn" (some .warn) :=
  sets_standard (by decide +kernel)

lemma Logger.line_standard : standard.line = Record.line := by rw [standard]

lemma Logger.writesLines_standard : standard.WritesLines where
  line r h := by
    rw [line_standard]
    exact r.endsLine_line h
  complaints text := by
    show EndsLine ((Filter.read text).2.flatMap Complaint.line)
    induction (Filter.read text).2 with
    | nil => exact endsLine_nil
    | cons c cs ih => exact c.endsLine_line.append ih

end RuntimeSupport.Log

import RuntimeSupport.Log.Filter

/-!
Loggers.  What writes the records of a process reads the filter that its environment sets, and says
how a record is written.  Programs log through any logger; `Logger.standard` is the one that this
library brings along.
-/

namespace RuntimeSupport.Log

/-- What writes the records of a process. -/
structure Logger where
  /-- Reads a filter: which records it lets through, and what is written about the parts of it that
  are left out. -/
  read : (text : String) → (Record → Bool) × Bytes
  /-- How a record is written. -/
  line : Record → Bytes

/-- The lines of records, one after the other. -/
def Logger.lines (l : Logger) (rs : List Record) : Bytes := rs.flatMap l.line

/-- The logger with the filters and the lines of this library. -/
def Logger.standard : Logger where
  read text :=
    let (filter, complaints) := Filter.read text
    (filter.admits, complaints.flatMap Complaint.line)
  line := Record.line

end RuntimeSupport.Log

/-
# Reports

What a command leaves behind: a code that is zero on success, what it printed, and
the log lines it showed.

Key definitions: `Report`, `Report.printedLines`, `Report.bareLines`.
-/
import SchemaDepot.Log

namespace SchemaDepot

/-- The result of a command. -/
structure Report where
  code : Nat
  output : String
  log : String
deriving DecidableEq

namespace Report

/-- The records of a level or graver. -/
def atLeast (level : Log.Level) (records : List Log.Record) : List Log.Record :=
  records.filter fun r => level.rank ≤ r.level.rank

/-- The lines of the records of a level or graver, with level and source. -/
def printedLines (level : Log.Level) (records : List Log.Record) : String :=
  String.join ((atLeast level records).map Log.Record.printed)

/-- The lines of the records of a level or graver, by their texts alone. -/
def bareLines (level : Log.Level) (records : List Log.Record) : String :=
  String.join ((atLeast level records).map fun r => r.text ++ "\n")

end Report

end SchemaDepot

import EventReport.Filter.Basic
import EventReport.Json.Reader
import EventReport.Json.Value

/-! # Names of comparisons in a document

A document names the comparisons of texts and numbers. Each has one name that is written, and some
have a second one that is read as well.
-/

namespace EventReport

open Json

/-- The name that is written. -/
def TextMatch.name : TextMatch → String
  | exact => "EXACT"
  | notExact => "NOT_EXACT"
  | regexp => "MATCH_REGEX"
  | notRegexp => "NOT_MATCH_REGEX"
  | beginsWith => "BEGINS_WITH"
  | endsWith => "ENDS_WITH"
  | contains => "CONTAINS"

/-- The names that are read. -/
def TextMatch.names : List (String × TextMatch) :=
  [("EXACT", exact), ("MATCH_EXACT", exact), ("NOT_EXACT", notExact),
    ("NOT_MATCH_EXACT", notExact), ("MATCH_REGEX", regexp), ("NOT_MATCH_REGEX", notRegexp),
    ("BEGINS_WITH", beginsWith), ("ENDS_WITH", endsWith), ("CONTAINS", contains)]

/-- Reads the name of a comparison of texts. -/
def TextMatch.read : Nat → Reader TextMatch :=
  readVariant names

/-- The comparison as a value of a document. -/
def TextMatch.toJson (m : TextMatch) : Value :=
  .text m.name

/-- The name that is written. -/
def Comparison.name : Comparison → String
  | equal => "EQUAL"
  | notEqual => "NOT_EQUAL"
  | less => "LESS_THAN"
  | lessOrEqual => "LESS_THAN_OR_EQUAL"
  | greater => "GREATER_THAN"
  | greaterOrEqual => "GREATER_THAN_OR_EQUAL"

/-- The names that are read. -/
def Comparison.names : List (String × Comparison) :=
  [equal, notEqual, less, lessOrEqual, greater, greaterOrEqual].map fun c => (c.name, c)

/-- Reads the name of a comparison of numbers. -/
def Comparison.read : Nat → Reader Comparison :=
  readVariant names

/-- The comparison as a value of a document. -/
def Comparison.toJson (c : Comparison) : Value :=
  .text c.name

end EventReport

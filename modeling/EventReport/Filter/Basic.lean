import EventReport.Error
import EventReport.Number.Binary64

/-! # Filters

A `Filter` is a tree of conditions joined by AND and OR. A condition tests one field of an event or
of a report. `Filter.group` joins filters and refuses to join none.
-/

namespace EventReport

/-- How a text is compared. -/
inductive TextMatch where
  | exact
  | notExact
  | regexp
  | notRegexp
  | beginsWith
  | endsWith
  | contains
  deriving DecidableEq, Repr

/-- How a number is compared. -/
inductive Comparison where
  | equal
  | notEqual
  | less
  | lessOrEqual
  | greater
  | greaterOrEqual
  deriving DecidableEq, Repr

/-- A text is compared with a value. Capitals are told apart whatever `caseSensitive` says. -/
structure TextTest where
  kind : TextMatch
  value : String
  caseSensitive : Bool := false
  deriving DecidableEq, Repr

/-- A number is compared with a value, which is a text in decimal. -/
structure NumberTest where
  comparison : Comparison
  value : String
  deriving DecidableEq, Repr

/-- A text is one of a list. -/
structure ListTest where
  values : List String
  caseSensitive : Bool := false
  deriving DecidableEq, Repr

/-- A number lies between two others. -/
structure BetweenTest where
  lower : Number.Real64
  upper : Number.Real64
  deriving DecidableEq, Repr

/-- What a condition asks of its field. -/
inductive Test where
  | text (test : TextTest)
  | number (test : NumberTest)
  | inList (test : ListTest)
  | between (test : BetweenTest)
  deriving DecidableEq, Repr

/-- A test of one field, which is a column or, if it is `custom`, a parameter of the event. -/
structure Condition where
  field : String
  custom : Bool := false
  test : Test
  deriving DecidableEq, Repr

/-- How filters are joined. -/
inductive Connective where
  | and
  | or
  deriving DecidableEq, Repr

/-- A tree of conditions. -/
inductive Filter where
  | leaf (condition : Condition)
  | node (connective : Connective) (members : List Filter)
  deriving Repr

namespace Filter

/-- Joins filters, of which there must be one at least. -/
def group (connective : Connective) (members : List Filter) : Except ReportError Filter :=
  if members.isEmpty then throw (.construction .emptyGroup) else pure (.node connective members)

end Filter

/-- The operator of a comparison. -/
def Comparison.symbol : Comparison → String
  | equal => "="
  | notEqual => "!="
  | less => "<"
  | lessOrEqual => "<="
  | greater => ">"
  | greaterOrEqual => ">="

/-- The operator that joins filters. -/
def Connective.keyword : Connective → String
  | .and => "AND"
  | .or => "OR"

end EventReport

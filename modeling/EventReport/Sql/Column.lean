/-! # Columns of a report

A report has two stages: the inner one takes one row for each event out of the event table, the
outer one aggregates those rows. A `Column` is what a dimension or a metric adds to both stages. The
items of a stage are data (`Item`), and `Item.render` writes them.
-/

namespace EventReport.Sql

/-- The column of the event table that holds parameters as keys and values. -/
def eventParams : String := "event_params"

/-- The column of the event table that holds the day as a text. -/
def eventDate : String := "event_date"

/-- What an item of a SELECT computes. -/
inductive Expr where
  /-- a column -/
  | column (name : String)
  /-- the text of the parameter with a key, which is given as a literal -/
  | param (key : String)
  /-- the day of the event -/
  | eventDay
  /-- the user and the session of the event as one text -/
  | sessionKey
  /-- the sum of a column -/
  | sum (column : String)
  /-- the number of values in a column -/
  | count (column : String)
  /-- the number of different values in a column -/
  | countDistinct (column : String)
  deriving DecidableEq, Repr

/-- One item of a SELECT: an expression under a name of its own, or a bare column. -/
structure Item where
  expr : Expr
  name? : Option String
  deriving DecidableEq, Repr

/-- Writes the expression. -/
def Expr.render : Expr → String
  | column name => name
  | param key => "(SELECT value.string_value FROM UNNEST(" ++ eventParams ++ ") WHERE key = " ++
      key ++ ")"
  | eventDay => "PARSE_DATE('%Y%m%d', " ++ eventDate ++ ")"
  | sessionKey => "CONCAT(user_pseudo_id, CAST((SELECT value.int_value FROM UNNEST(" ++
      eventParams ++ ") WHERE key = 'ga_session_id') AS STRING))"
  | sum name => "SUM(" ++ name ++ ")"
  | count name => "COUNT(" ++ name ++ ")"
  | countDistinct name => "COUNT(DISTINCT " ++ name ++ ")"

namespace Item

/-- An expression under a name. -/
def named (expr : Expr) (name : String) : Item := ⟨expr, some name⟩

/-- A column under its own name. -/
def bare (column : String) : Item := ⟨.column column, none⟩

/-- Writes the item. -/
def render (item : Item) : String :=
  match item.name? with
  | some name => item.expr.render ++ " AS " ++ name
  | none => item.expr.render

end Item

/-- What a dimension or a metric adds to the two stages. `grouped` columns are among the groups of
the inner stage under `innerName`; the outer stage shows the column as `outerName`. -/
structure Column where
  grouped : Bool
  innerName : String
  outerName : String
  inner : Item
  outer : Item
  deriving DecidableEq, Repr

end EventReport.Sql

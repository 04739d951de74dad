import EventReport.Error
import EventReport.Sql.Column
import EventReport.Sql.Quoting

/-! # The catalog

The catalog turns the names of a request into columns. The metrics are a fixed list (`MetricKey`). A
dimension is any column of the event table, or a parameter of the event; its alias is its name
without dots.
-/

namespace EventReport

open Sql

/-- The metrics that a report can have. -/
inductive MetricKey where
  | events
  | revenue
  | sessions
  | users
  deriving DecidableEq, Repr

namespace MetricKey

/-- All metrics, in the order of their names. -/
def all : List MetricKey := [events, revenue, sessions, users]

/-- The name of a metric in a request. -/
def name : MetricKey → String
  | events => "events"
  | revenue => "revenue"
  | sessions => "sessions"
  | users => "users"

/-- The metric with a name. -/
def ofName? (name : String) : Option MetricKey :=
  all.find? fun key => key.name = name

/-- The column of a metric. Sessions and users are groups of the inner stage, so that each is one
row there, and the outer stage counts them; the other metrics are aggregated in both stages. -/
def column : MetricKey → Column
  | events => ⟨false, "events", "events", .named (.count "event_name") "events",
      .named (.sum "events") "events"⟩
  | revenue => ⟨false, "revenue", "revenue", .named (.sum "ecommerce.purchase_revenue") "revenue",
      .named (.sum "revenue") "revenue"⟩
  | sessions => ⟨true, "sessions", "sessions", .named .sessionKey "sessions",
      .named (.countDistinct "sessions") "sessions"⟩
  | users => ⟨true, "user_pseudo_id", "users", .bare "user_pseudo_id",
      .named (.countDistinct "user_pseudo_id") "users"⟩

end MetricKey

/-- The column of the metric with a name. -/
def metricColumn (name : String) : Except ReportError Column :=
  match MetricKey.ofName? name with
  | some key => pure key.column
  | none => throw (.unsupportedMetric name)

/-- What a dimension computes: a parameter of the event if it is custom, else a column, of which the
one that holds the day as a text becomes a date. -/
def dimensionExpr (q : Quoting) (custom : Bool) (name : String) : Except ReportError Expr :=
  if custom then pure (.param (q.literal name))
  else if name = eventDate then pure .eventDay
  else return .column (← q.identifier name)

/-- The column of a dimension, which is a group of both stages under its alias. -/
def dimensionColumn (q : Quoting) (custom : Bool) (name : String) : Except ReportError Column := do
  let shown ← q.identifier (aliasOf name)
  let expr ← dimensionExpr q custom name
  return ⟨true, shown, shown, .named expr shown, .bare shown⟩

end EventReport

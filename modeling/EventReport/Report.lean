import EventReport.Catalog
import EventReport.Filter.Predicate
import EventReport.Request
import EventReport.Sql.Select

/-! # Reports

A `Report` is a request whose names are resolved and whose filters are compiled. `Report.ofRequest`
finds the first fault of a request, and `Report.render` writes the statement of the report: the
inner stage reads the events of the range, the outer one aggregates per combination of dimensions.
-/

namespace EventReport

open Sql

/-- A column of the report that its rows are ordered by. -/
structure OrderTerm where
  column : String
  descending : Bool
  deriving DecidableEq, Repr

/-- A request whose names are resolved and whose filters are compiled. -/
structure Report where
  tables : String
  dimensions : List Column
  metrics : List Column
  range : Calendar.DayRange
  eventFilter : Option Predicate
  rowFilter : Option Predicate
  order : List OrderTerm

/-- The pattern that the names of the tables match. -/
def EventTable.resolve (q : Quoting) (t : EventTable) : Except ReportError String := do
  let project ← q.tablePart t.project
  let dataset ← q.tablePart t.dataset
  let table ← q.tablePart t.table
  return project ++ "." ++ dataset ++ "." ++ table ++ "_*"

/-- A column to order by, under its alias. -/
def SortKey.resolve (q : Quoting) (k : SortKey) : Except ReportError OrderTerm := do
  let column ← q.identifier (aliasOf k.field)
  return ⟨column, k.descending⟩

/-- Compiles a filter, if there is one. -/
def compileFilter (options : CompileOptions) :
    Option Filter → Except ReportError (Option Predicate)
  | none => pure none
  | some filter => filter.compile options

/-- Writes the term. -/
def OrderTerm.render (t : OrderTerm) : String :=
  t.column ++ (if t.descending then " DESC" else " ASC")

namespace Report

/-- Resolves a request: dimensions, metrics, table, filters and order, up to the first fault. -/
def ofRequest (options : CompileOptions) (table : EventTable) (r : Request) :
    Except ReportError Report := do
  let dimensions ← r.dimensions.mapM fun d => dimensionColumn options.quoting d.custom d.apiName
  let metrics ← r.metrics.mapM fun m => metricColumn m.apiName
  let tables ← table.resolve options.quoting
  let eventFilter ← compileFilter options r.dimensionFilter
  let rowFilter ← compileFilter options r.metricFilter
  let order ← r.order.mapM fun k => k.resolve options.quoting
  return { tables, dimensions, metrics, range := r.range, eventFilter, rowFilter, order }

/-- The columns of the report, dimensions first. -/
def columns (r : Report) : List Column :=
  r.dimensions ++ r.metrics

/-- The groups of the inner stage: dimensions, and metrics that are counted one by one. -/
def innerGroups (r : Report) : List String :=
  (r.columns.filter (·.grouped)).map (·.innerName)

/-- The groups of the outer stage. -/
def outerGroups (r : Report) : List String :=
  r.dimensions.map (·.outerName)

/-- The inner stage: the events of the range that the filter on events lets through. -/
def inner (r : Report) : Select where
  source := .table r.tables
  columns := r.columns.map (·.inner.render)
  conditions := r.range.suffixPredicate :: r.eventFilter.toList.map Predicate.render
  groups := r.innerGroups

/-- The outer stage: the rows of the report. -/
def outer (r : Report) : Select where
  source := .derived r.inner.render
  columns := r.columns.map (·.outer.render)
  groups := r.outerGroups
  having := r.rowFilter.map Predicate.render
  order := r.order.map OrderTerm.render

/-- The statement of the report. -/
def render (r : Report) : String :=
  r.outer.render ++ ";"

end Report

/-- Compiles a request into a statement. -/
def compile (options : CompileOptions) (table : EventTable) (r : Request) :
    Except ReportError String :=
  Report.render <$> Report.ofRequest options table r

end EventReport

import EventReport.Calendar.DayRange
import EventReport.Filter.Basic

/-! # Requests

A `Request` says what a report shows: dimensions and metrics over a range of days, a filter on the
events, a filter on the rows of the report, and the order of its rows.
-/

namespace EventReport

/-- What the rows of a report are told apart by: a column or, if it is `custom`, a parameter of the
event. The label describes it and has no effect. -/
structure Dimension where
  custom : Bool := false
  apiName : String
  label : String := apiName
  deriving DecidableEq, Repr

/-- What a report counts or sums up. Only the name has an effect. -/
structure Metric where
  custom : Bool := false
  apiName : String
  label : String := apiName
  deriving DecidableEq, Repr

/-- A column that the rows are ordered by. -/
structure SortKey where
  field : String
  descending : Bool := false
  deriving DecidableEq, Repr

/-- Where the events are: a table for every day, whose names begin alike. -/
structure EventTable where
  project : String
  dataset : String
  table : String
  deriving DecidableEq, Repr

/-- What a report shows. -/
structure Request where
  range : Calendar.DayRange
  dimensions : List Dimension := []
  metrics : List Metric := []
  dimensionFilter : Option Filter := none
  metricFilter : Option Filter := none
  order : List SortKey := []

namespace Request

/-- The request with one dimension more. -/
def addDimension (r : Request) (d : Dimension) : Request :=
  { r with dimensions := r.dimensions ++ [d] }

/-- The request with one metric more. -/
def addMetric (r : Request) (m : Metric) : Request :=
  { r with metrics := r.metrics ++ [m] }

/-- The request with one column more to order by. -/
def addSortKey (r : Request) (k : SortKey) : Request :=
  { r with order := r.order ++ [k] }

end Request

end EventReport

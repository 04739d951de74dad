import EventReport.Wire.FilterTree

/-! # Requests in a document

`Request.ofText` reads a request from the text of a JSON document. The document is read as a whole
first (`RequestRecord`); only then are the days of its range and its filters looked at.
-/

namespace EventReport

open Json

/-- The ends of a range as a document gives them. -/
structure RangeRecord where
  first : String
  last : String
  deriving DecidableEq, Repr

/-- A request as a document gives it. -/
structure RequestRecord where
  dimensions : List Dimension
  metrics : List Metric
  range : RangeRecord
  metricFilter : Option FilterNode
  dimensionFilter : Option FilterNode
  order : Option (List SortKey)
  deriving Repr

/-! ## Reading -/

/-- The fields of a range. -/
inductive RangeField where
  | first
  | last
  deriving DecidableEq

/-- The layout of a range. -/
def rangeLayout : Layout RangeRecord where
  name := "RawDateRange"
  Field := RangeField
  decEq := inferInstance
  fields := [.first, .last]
  label
    | .first => "start"
    | .last => "end"
  Value _ := String
  reader _ := readText
  absence _ := .required
  build supply := do
    let first ← supply .first
    let last ← supply .last
    return ⟨first, last⟩

/-- The fields of a request. -/
inductive RequestField where
  | dimensions
  | metrics
  | range
  | metricFilter
  | dimensionFilter
  | order
  deriving DecidableEq

/-- The layout of a request. -/
def requestLayout (depth : Nat) : Layout RequestRecord where
  name := "RawQueryRequest"
  Field := RequestField
  decEq := inferInstance
  fields := [.dimensions, .metrics, .range, .metricFilter, .dimensionFilter, .order]
  label
    | .dimensions => "dimensions"
    | .metrics => "metrics"
    | .range => "dateRange"
    | .metricFilter => "metricFilter"
    | .dimensionFilter => "dimensionFilter"
    | .order => "orderBys"
  Value
    | .dimensions => List Dimension
    | .metrics => List Metric
    | .range => RangeRecord
    | .metricFilter => Option FilterNode
    | .dimensionFilter => Option FilterNode
    | .order => Option (List SortKey)
  reader
    | .dimensions => readList Dimension.read depth
    | .metrics => readList Metric.read depth
    | .range => readRecord "RawDateRange" (fun _ => rangeLayout) depth
    | .metricFilter => readOptional (FilterNode.read depth)
    | .dimensionFilter => readOptional (FilterNode.read depth)
    | .order => readOptional (readList SortKey.read depth)
  absence
    | .dimensions => .always []
    | .metrics => .always []
    | .range => .required
    | .metricFilter => .inObject none
    | .dimensionFilter => .inObject none
    | .order => .inObject none
  build supply := do
    let dimensions ← supply .dimensions
    let metrics ← supply .metrics
    let range ← supply .range
    let metricFilter ← supply .metricFilter
    let dimensionFilter ← supply .dimensionFilter
    let order ← supply .order
    return { dimensions, metrics, range, metricFilter, dimensionFilter, order }

/-- Reads a request. -/
def RequestRecord.read : Nat → Reader RequestRecord :=
  readRecord "RawQueryRequest" requestLayout

/-! ## Making a request -/

/-- Makes a range. -/
def RangeRecord.toRange (r : RangeRecord) : Except ReportError Calendar.DayRange := do
  let first ← Calendar.parseBound r.first
  let last ← Calendar.parseBound r.last
  Calendar.DayRange.between first last

/-- Makes a filter, if there is one. -/
def toFilter? : Option FilterNode → Except ReportError (Option Filter)
  | none => pure none
  | some node => some <$> node.toFilter

/-- Makes a request: its range, its filter on dimensions, then its filter on metrics. -/
def RequestRecord.toRequest (r : RequestRecord) : Except ReportError Request := do
  let range ← r.range.toRange
  let dimensionFilter ← toFilter? r.dimensionFilter
  let metricFilter ← toFilter? r.metricFilter
  return { range, dimensions := r.dimensions, metrics := r.metrics, dimensionFilter, metricFilter
           order := r.order.getD [] }

/-- Reads a request from the text of a document. -/
def Request.ofText (text : String) : Except ReportError Request :=
  match decode RequestRecord.read text with
  | .ok record => record.toRequest
  | .error fault => throw (.undecodable fault)

end EventReport

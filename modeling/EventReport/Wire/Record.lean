import EventReport.Request
import EventReport.Wire.Names

/-! # Records in a document

The layouts of the records that a request is made of, which say how each is read from a document,
and the values that they are written as. A record is written as an object with all its fields
in order.
-/

namespace EventReport

open Json

/-! ## Dimensions and metrics -/

/-- The fields of a dimension and of a metric. -/
inductive NamedField where
  | custom
  | apiName
  | label
  deriving DecidableEq

/-- The layout of a dimension or a metric, put together by `make`. -/
def namedLayout {α : Type} (name : String) (make : Bool → String → String → α) : Layout α where
  name := name
  Field := NamedField
  decEq := inferInstance
  fields := [.custom, .apiName, .label]
  label
    | .custom => "custom"
    | .apiName => "apiName"
    | .label => "name"
  Value
    | .custom => Bool
    | .apiName => String
    | .label => String
  reader
    | .custom => readBool
    | .apiName => readText
    | .label => readText
  absence
    | .custom => .always false
    | .apiName => .required
    | .label => .always ""
  build supply := do
    let custom ← supply .custom
    let apiName ← supply .apiName
    let label ← supply .label
    return make custom apiName label

/-- Reads a dimension. -/
def Dimension.read : Nat → Reader Dimension :=
  readRecord "Dimension" fun _ => namedLayout "Dimension" Dimension.mk

/-- The dimension as a value of a document. -/
def Dimension.toJson (d : Dimension) : Value :=
  .object [("custom", .bool d.custom), ("apiName", .text d.apiName), ("name", .text d.label)]

/-- Reads a metric. -/
def Metric.read : Nat → Reader Metric :=
  readRecord "Metric" fun _ => namedLayout "Metric" Metric.mk

/-- The metric as a value of a document. -/
def Metric.toJson (m : Metric) : Value :=
  .object [("custom", .bool m.custom), ("apiName", .text m.apiName), ("name", .text m.label)]

/-! ## Order and table -/

/-- The fields of a sort key. -/
inductive SortKeyField where
  | field
  | descending
  deriving DecidableEq

/-- The layout of a sort key. -/
def sortKeyLayout : Layout SortKey where
  name := "OrderBy"
  Field := SortKeyField
  decEq := inferInstance
  fields := [.field, .descending]
  label
    | .field => "fieldName"
    | .descending => "desc"
  Value
    | .field => String
    | .descending => Bool
  reader
    | .field => readText
    | .descending => readBool
  absence
    | .field => .required
    | .descending => .always false
  build supply := do
    let field ← supply .field
    let descending ← supply .descending
    return ⟨field, descending⟩

/-- Reads a sort key. -/
def SortKey.read : Nat → Reader SortKey :=
  readRecord "OrderBy" fun _ => sortKeyLayout

/-- The sort key as a value of a document. -/
def SortKey.toJson (k : SortKey) : Value :=
  .object [("fieldName", .text k.field), ("desc", .bool k.descending)]

/-- The fields of a table. -/
inductive TableField where
  | project
  | dataset
  | table
  deriving DecidableEq

/-- The layout of a table. -/
def tableLayout : Layout EventTable where
  name := "TableRef"
  Field := TableField
  decEq := inferInstance
  fields := [.project, .dataset, .table]
  label
    | .project => "project"
    | .dataset => "dataset"
    | .table => "table"
  Value _ := String
  reader _ := readText
  absence _ := .required
  build supply := do
    let project ← supply .project
    let dataset ← supply .dataset
    let table ← supply .table
    return ⟨project, dataset, table⟩

/-- Reads a table. -/
def EventTable.read : Nat → Reader EventTable :=
  readRecord "TableRef" fun _ => tableLayout

/-- The table as a value of a document. -/
def EventTable.toJson (t : EventTable) : Value :=
  .object [("project", .text t.project), ("dataset", .text t.dataset), ("table", .text t.table)]

/-! ## Tests -/

/-- The fields of a test of a text. -/
inductive TextTestField where
  | kind
  | value
  | caseSensitive
  deriving DecidableEq

/-- The layout of a test of a text. -/
def textTestLayout (depth : Nat) : Layout TextTest where
  name := "StringFilter"
  Field := TextTestField
  decEq := inferInstance
  fields := [.kind, .value, .caseSensitive]
  label
    | .kind => "matchType"
    | .value => "value"
    | .caseSensitive => "caseSensitive"
  Value
    | .kind => TextMatch
    | .value => String
    | .caseSensitive => Bool
  reader
    | .kind => TextMatch.read depth
    | .value => readText
    | .caseSensitive => readBool
  absence
    | .kind => .required
    | .value => .required
    | .caseSensitive => .always false
  build supply := do
    let kind ← supply .kind
    let value ← supply .value
    let caseSensitive ← supply .caseSensitive
    return ⟨kind, value, caseSensitive⟩

/-- Reads a test of a text. -/
def TextTest.read : Nat → Reader TextTest :=
  readRecord "StringFilter" textTestLayout

/-- The test as a value of a document. -/
def TextTest.toJson (t : TextTest) : Value :=
  .object [("matchType", t.kind.toJson), ("value", .text t.value),
    ("caseSensitive", .bool t.caseSensitive)]

/-- The fields of a test of a number. -/
inductive NumberTestField where
  | comparison
  | value
  deriving DecidableEq

/-- The layout of a test of a number. -/
def numberTestLayout (depth : Nat) : Layout NumberTest where
  name := "NumericFilter"
  Field := NumberTestField
  decEq := inferInstance
  fields := [.comparison, .value]
  label
    | .comparison => "operation"
    | .value => "value"
  Value
    | .comparison => Comparison
    | .value => String
  reader
    | .comparison => Comparison.read depth
    | .value => readText
  absence
    | .comparison => .required
    | .value => .required
  build supply := do
    let comparison ← supply .comparison
    let value ← supply .value
    return ⟨comparison, value⟩

/-- Reads a test of a number. -/
def NumberTest.read : Nat → Reader NumberTest :=
  readRecord "NumericFilter" numberTestLayout

/-- The test as a value of a document. -/
def NumberTest.toJson (t : NumberTest) : Value :=
  .object [("operation", t.comparison.toJson), ("value", .text t.value)]

/-- The fields of a test against a list. -/
inductive ListTestField where
  | values
  | caseSensitive
  deriving DecidableEq

/-- The layout of a test against a list. -/
def listTestLayout (depth : Nat) : Layout ListTest where
  name := "InListFilter"
  Field := ListTestField
  decEq := inferInstance
  fields := [.values, .caseSensitive]
  label
    | .values => "values"
    | .caseSensitive => "caseSensitive"
  Value
    | .values => List String
    | .caseSensitive => Bool
  reader
    | .values => readList (fun _ => readText) depth
    | .caseSensitive => readBool
  absence
    | .values => .always []
    | .caseSensitive => .always false
  build supply := do
    let values ← supply .values
    let caseSensitive ← supply .caseSensitive
    return ⟨values, caseSensitive⟩

/-- Reads a test against a list. -/
def ListTest.read : Nat → Reader ListTest :=
  readRecord "InListFilter" listTestLayout

/-- The test as a value of a document. -/
def ListTest.toJson (t : ListTest) : Value :=
  .object [("values", .array (t.values.map .text)), ("caseSensitive", .bool t.caseSensitive)]

/-- The fields of a test against two numbers. -/
inductive BetweenTestField where
  | lower
  | upper
  deriving DecidableEq

/-- The layout of a test against two numbers. -/
def betweenTestLayout : Layout BetweenTest where
  name := "BetweenFilter"
  Field := BetweenTestField
  decEq := inferInstance
  fields := [.lower, .upper]
  label
    | .lower => "fromValue"
    | .upper => "toValue"
  Value _ := Number.Real64
  reader _ := readReal
  absence _ := .required
  build supply := do
    let lower ← supply .lower
    let upper ← supply .upper
    return ⟨lower, upper⟩

/-- Reads a test against two numbers. -/
def BetweenTest.read : Nat → Reader BetweenTest :=
  readRecord "BetweenFilter" fun _ => betweenTestLayout

/-- The test as a value of a document. -/
def BetweenTest.toJson (t : BetweenTest) : Value :=
  .object [("fromValue", .real t.lower), ("toValue", .real t.upper)]

end EventReport

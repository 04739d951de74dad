import EventReport.Wire.Record

/-! # Filters in a document

A document gives a filter as a tree of nodes, each of which should have exactly one of three forms,
and each condition should have exactly one test. A `FilterNode` is what a document gives, whatever
forms it has; `FilterNode.toFilter` makes a filter of it or finds the first node at fault.
-/

namespace EventReport

open Json

/-- A condition as a document gives it. -/
structure ConditionNode where
  field : String
  custom : Bool
  text : Option TextTest
  number : Option NumberTest
  inList : Option ListTest
  between : Option BetweenTest
  deriving DecidableEq, Repr

/-- A filter as a document gives it. -/
inductive FilterNode where
  | node (allOf anyOf : Option (List FilterNode)) (condition : Option ConditionNode)
  deriving Repr

/-! ## Making filters of nodes -/

namespace ConditionNode

/-- The tests of the condition. -/
def tests (c : ConditionNode) : List Test :=
  (c.text.map .text).toList ++ (c.number.map .number).toList ++ (c.inList.map .inList).toList ++
    (c.between.map .between).toList

/-- Makes a condition, which must have one test. -/
def toCondition (c : ConditionNode) : Except ReportError Condition :=
  match c.tests with
  | [] => throw (.construction (.noTest c.field))
  | [test] => pure ⟨c.field, c.custom, test⟩
  | _ => throw (.construction (.severalTests c.field))

end ConditionNode

namespace FilterNode

mutual

/-- Makes a filter. A node of no form or of several is at fault before what lies below it. -/
def toFilter : FilterNode → Except ReportError Filter
  | .node (some members) none none => do
    let filters ← toFilters members
    Filter.group .and filters
  | .node none (some members) none => do
    let filters ← toFilters members
    Filter.group .or filters
  | .node none none (some condition) => do
    let condition ← condition.toCondition
    return .leaf condition
  | _ => throw (.construction .notOneVariant)

/-- Makes filters, in order. -/
def toFilters : List FilterNode → Except ReportError (List Filter)
  | [] => pure []
  | first :: rest => do
    let filter ← toFilter first
    let filters ← toFilters rest
    return filter :: filters

end

end FilterNode

/-! ## Reading nodes -/

/-- The fields of a condition. -/
inductive ConditionField where
  | field
  | custom
  | text
  | number
  | inList
  | between
  deriving DecidableEq

/-- The layout of a condition. -/
def conditionLayout (depth : Nat) : Layout ConditionNode where
  name := "RawFilter"
  Field := ConditionField
  decEq := inferInstance
  fields := [.field, .custom, .text, .number, .inList, .between]
  label
    | .field => "fieldName"
    | .custom => "custom"
    | .text => "stringFilter"
    | .number => "numericFilter"
    | .inList => "inListFilter"
    | .between => "betweenFilter"
  Value
    | .field => String
    | .custom => Bool
    | .text => Option TextTest
    | .number => Option NumberTest
    | .inList => Option ListTest
    | .between => Option BetweenTest
  reader
    | .field => readText
    | .custom => readBool
    | .text => readOptional (TextTest.read depth)
    | .number => readOptional (NumberTest.read depth)
    | .inList => readOptional (ListTest.read depth)
    | .between => readOptional (BetweenTest.read depth)
  absence
    | .field => .required
    | .custom => .always false
    | .text => .inObject none
    | .number => .inObject none
    | .inList => .inObject none
    | .between => .inObject none
  build supply := do
    let field ← supply .field
    let custom ← supply .custom
    let text ← supply .text
    let number ← supply .number
    let inList ← supply .inList
    let between ← supply .between
    return { field, custom, text, number, inList, between }

/-- The one field of a group. -/
inductive GroupField where
  | members
  deriving DecidableEq

/-- The layout of a group, its members read by `members`. -/
def groupLayout (members : Reader (List FilterNode)) : Layout (List FilterNode) where
  name := "RawExpressionList"
  Field := GroupField
  decEq := inferInstance
  fields := [.members]
  label _ := "expressions"
  Value _ := List FilterNode
  reader _ := members
  absence _ := .always []
  build supply := supply .members

/-- The forms of a node. -/
inductive FilterField where
  | allOf
  | anyOf
  | condition
  deriving DecidableEq

/-- The layout of a node, its groups read by `group` and its condition by `condition`. -/
def filterLayout (group : Reader (List FilterNode)) (condition : Reader ConditionNode) :
    Layout FilterNode where
  name := "RawFilterExpression"
  Field := FilterField
  decEq := inferInstance
  fields := [.allOf, .anyOf, .condition]
  label
    | .allOf => "andGroup"
    | .anyOf => "orGroup"
    | .condition => "filter"
  Value
    | .allOf => Option (List FilterNode)
    | .anyOf => Option (List FilterNode)
    | .condition => Option ConditionNode
  reader
    | .allOf => readOptional group
    | .anyOf => readOptional group
    | .condition => readOptional condition
  absence
    | .allOf => .inObject none
    | .anyOf => .inObject none
    | .condition => .inObject none
  build supply := do
    let allOf ← supply .allOf
    let anyOf ← supply .anyOf
    let condition ← supply .condition
    return .node allOf anyOf condition

namespace FilterNode

mutual

/-- Reads a node. -/
def read : Nat → Reader FilterNode
  | 0 => readTooDeep "RawFilterExpression"
  | depth + 1 =>
    (filterLayout (readGroup depth) (readRecord "RawFilter" conditionLayout depth)).read

/-- Reads a group. -/
def readGroup : Nat → Reader (List FilterNode)
  | 0 => readTooDeep "RawExpressionList"
  | depth + 1 => (groupLayout (readMembers depth)).read

/-- Reads the members of a group. -/
def readMembers : Nat → Reader (List FilterNode)
  | 0 => readTooDeepList
  | depth + 1 => readEach (read depth)

end

end FilterNode

end EventReport

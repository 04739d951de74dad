import EventReport.Json.Error
import EventReport.Text.Quoted

/-! # Why a report cannot be compiled

A `ReportError` names the cause, and `ReportError.message` words it. Every cause is a consequence of
the input alone.
-/

namespace EventReport

/-- A part of a request that is not put together as it has to be. -/
inductive Misconstruction where
  | startAfterEnd
  | notOneVariant
  | emptyGroup
  | severalTests (field : String)
  | noTest (field : String)
  deriving DecidableEq, Repr

/-- A day or a range of days that cannot be made out. -/
inductive RangeError where
  | outOfBounds (text : String)
  | unknownFormat (text : String)
  | invalidDay (text : String)
  | invalidBound (text : String)
  deriving DecidableEq, Repr

/-- The tests that have no form in the statement. -/
inductive UnsupportedTest where
  | inList
  | between
  deriving DecidableEq, Repr

/-- Why a report cannot be compiled. -/
inductive ReportError where
  | construction (cause : Misconstruction)
  | unsupportedMetric (key : String)
  | unsupportedTest (test : UnsupportedTest)
  | tooDeep (limit : UInt64)
  | invalidIdentifier (name : String)
  | invalidNumber (text : String)
  | invalidRange (cause : RangeError)
  | undecodable (fault : Json.DecodeError)
  deriving DecidableEq, Repr

/-- Words the cause. -/
def Misconstruction.message : Misconstruction → String
  | startAfterEnd => "date range start must be before or equal to end"
  | notOneVariant => "exactly one of andGroup, orGroup or filter must be set"
  | emptyGroup => "filter group must contain at least one expression"
  | severalTests field => "filter on '" ++ field ++ "' sets more than one filter type"
  | noTest field => "filter on '" ++ field ++ "' sets no filter type"

/-- Words the cause. -/
def RangeError.message : RangeError → String
  | outOfBounds text => "date range out of bounds: " ++ text
  | unknownFormat text => "unknown date range format: " ++ text
  | invalidDay text => "invalid date format: " ++ text ++ " (use YYYY-MM-DD)"
  | invalidBound text => "invalid date: " ++ text ++ " (use YYYY-MM-DD)"

/-- The name of the test in a request. -/
def UnsupportedTest.name : UnsupportedTest → String
  | inList => "inListFilter"
  | between => "betweenFilter"

/-- Words the cause. -/
def ReportError.message : ReportError → String
  | construction cause => "invalid construction: " ++ cause.message
  | unsupportedMetric key => "unsupported metric: " ++ key
  | unsupportedTest test => "unsupported filter kind: " ++ test.name
  | tooDeep limit => "filter expression exceeds maximum depth of " ++ toString limit.toNat
  | invalidIdentifier name => "invalid identifier: " ++ Text.quoted name
  | invalidNumber text => "invalid numeric value: " ++ Text.quoted text
  | invalidRange cause => "invalid date range: " ++ cause.message
  | undecodable fault => "invalid request: " ++ fault.message

end EventReport

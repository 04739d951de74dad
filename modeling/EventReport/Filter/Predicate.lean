import EventReport.Filter.Basic
import EventReport.Sql.Column
import EventReport.Sql.Quoting
import EventReport.Text.Join

/-! # Predicates

A `Predicate` is the condition that a filter becomes in a statement. `Filter.compile` builds it:
groups below which there is no condition vanish, a group of one member is that member, and the depth
of the tree is limited. `Predicate.render` writes it, every group of several members in parentheses.
-/

namespace EventReport

open Sql Text

/-- A comparison of a text with a literal. -/
inductive LiteralTest where
  | equal (literal : String)
  | notEqual (literal : String)
  | matching (literal : String)
  | notMatching (literal : String)
  | like (literal : String)
  deriving DecidableEq, Repr

/-- A condition in a statement: of a column or a parameter of the event, whose key is a literal. -/
inductive Atom where
  | column (name : String) (test : LiteralTest)
  | param (key : String) (test : LiteralTest)
  | number (name : String) (comparison : Comparison) (value : String)
  deriving DecidableEq, Repr

/-- A condition, or several joined. -/
inductive Predicate where
  | atom (condition : Atom)
  | group (connective : Connective) (members : List Predicate)
  deriving Repr

/-! ## Writing -/

/-- Writes the comparison of `subject`. -/
def LiteralTest.render (subject : String) : LiteralTest → String
  | equal literal => subject ++ " = " ++ literal
  | notEqual literal => subject ++ " != " ++ literal
  | matching literal => "REGEXP_CONTAINS(" ++ subject ++ ", " ++ literal ++ ")"
  | notMatching literal => "NOT REGEXP_CONTAINS(" ++ subject ++ ", " ++ literal ++ ")"
  | like literal => subject ++ " LIKE " ++ literal

/-- Writes the condition. -/
def Atom.render : Atom → String
  | column name test => test.render name
  | param key test => "EXISTS(SELECT 1 FROM UNNEST(" ++ eventParams ++ ") WHERE key = " ++ key ++
      " AND " ++ test.render "value.string_value" ++ ")"
  | number name comparison value => name ++ " " ++ comparison.symbol ++ " " ++ value

namespace Predicate

mutual

/-- Writes the predicate. -/
def render : Predicate → String
  | atom condition => condition.render
  | group connective members =>
    "(" ++ joined (" " ++ connective.keyword ++ " ") (renderAll members) ++ ")"

/-- Writes each predicate. -/
def renderAll : List Predicate → List String
  | [] => []
  | p :: rest => render p :: renderAll rest

end

/-- Joins what is left of the members of a group: nothing of none, and one as it is. -/
def join (connective : Connective) : List Predicate → Option Predicate
  | [] => none
  | [p] => some p
  | members => some (group connective members)

end Predicate

/-! ## Compiling -/

/-- The limit on the depth of filters and the quoting that a report is compiled with. -/
structure CompileOptions where
  maxDepth : UInt64 := 20
  quoting : Quoting := .verbatim
  deriving DecidableEq, Repr

/-- The comparison that a test of a text becomes. -/
def TextTest.compile (q : Quoting) (test : TextTest) : LiteralTest :=
  match test.kind with
  | .exact => .equal (q.literal test.value)
  | .notExact => .notEqual (q.literal test.value)
  | .regexp => .matching (q.regexp test.value)
  | .notRegexp => .notMatching (q.regexp test.value)
  | .beginsWith => .like (q.pattern "" test.value "%")
  | .endsWith => .like (q.pattern "%" test.value "")
  | .contains => .like (q.pattern "%" test.value "%")

/-- The condition in a statement. Only texts are looked up among the parameters of the event. -/
def Condition.compile (q : Quoting) (c : Condition) : Except ReportError Atom :=
  match c.test with
  | .text test =>
    if c.custom then pure (.param (q.literal c.field) (test.compile q))
    else do
      let name ← q.identifier c.field
      return .column name (test.compile q)
  | .number test => do
    let name ← q.identifier c.field
    let value ← q.number test.value
    return .number name test.comparison value
  | .inList _ => throw (.unsupportedTest .inList)
  | .between _ => throw (.unsupportedTest .between)

namespace Filter

mutual

/-- Compiles a filter that lies below `depth` levels; it is a level itself. -/
def compileAt (options : CompileOptions) (depth : UInt64) :
    Filter → Except ReportError (Option Predicate)
  | .leaf condition =>
    if depth + 1 > options.maxDepth then throw (.tooDeep options.maxDepth)
    else do
      let atom ← condition.compile options.quoting
      return some (.atom atom)
  | .node connective members =>
    if depth + 1 > options.maxDepth then throw (.tooDeep options.maxDepth)
    else do
      let parts ← compileMembers options (depth + 1) members
      return Predicate.join connective parts

/-- Compiles the members of a group in order, without those of which nothing is left. -/
def compileMembers (options : CompileOptions) (depth : UInt64) :
    List Filter → Except ReportError (List Predicate)
  | [] => pure []
  | member :: rest => do
    let part ← compileAt options depth member
    let parts ← compileMembers options depth rest
    return part.toList ++ parts

end

/-- Compiles a whole filter. -/
def compile (options : CompileOptions) (filter : Filter) : Except ReportError (Option Predicate) :=
  filter.compileAt options 0

end Filter

/-- Writes what is left of a filter. -/
def renderPredicate : Option Predicate → String
  | none => ""
  | some p => p.render

end EventReport

import EventReport.Text.Join

/-! # SELECT statements

A `Select` collects the parts of one SELECT over a table or over another SELECT. Each step adds to
one clause, and `Select.render` writes the clauses in their order, without those that are empty.
-/

namespace EventReport.Sql

open Text

/-- What a SELECT reads from. -/
inductive Source where
  | table (name : String)
  | derived (query : String)
  deriving DecidableEq, Repr

/-- The parts of a SELECT, each clause in the order of its additions. -/
structure Select where
  source : Source
  columns : List String := []
  conditions : List String := []
  groups : List String := []
  having : Option String := none
  order : List String := []
  deriving DecidableEq, Repr

/-- One addition to a SELECT. -/
inductive Select.Step where
  | columns (items : List String)
  | condition (predicate : String)
  | groups (names : List String)
  | having (predicate : String)
  | order (term : String)
  deriving DecidableEq, Repr

namespace Select

/-- Adds to a clause; a later condition on groups takes the place of an earlier one. -/
def add (s : Select) : Step → Select
  | .columns items => { s with columns := s.columns ++ items }
  | .condition predicate => { s with conditions := s.conditions ++ [predicate] }
  | .groups names => { s with groups := s.groups ++ names }
  | .having predicate => { s with having := some predicate }
  | .order term => { s with order := s.order ++ [term] }

/-- The source in the FROM clause. -/
def renderSource : Source → String
  | .table name => "`" ++ name ++ "`"
  | .derived query => "(" ++ query ++ ")"

/-- A clause, if it has parts. -/
def renderClause (keyword sep : String) (parts : List String) : String :=
  if parts = [] then "" else keyword ++ joined sep parts

/-- The statement. Without columns it selects all of them. -/
def render (s : Select) : String :=
  "SELECT " ++ (if s.columns = [] then "*" else joined ", " s.columns) ++
    " FROM " ++ renderSource s.source ++
    renderClause " WHERE " " AND " s.conditions ++
    renderClause " GROUP BY " ", " s.groups ++
    renderClause " HAVING " "" s.having.toList ++
    renderClause " ORDER BY " ", " s.order

end Select

end EventReport.Sql

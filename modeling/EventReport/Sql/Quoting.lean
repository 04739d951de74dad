import EventReport.Error
import EventReport.Number.Literal
import EventReport.Text.Blank

/-! # Quoting

A `Quoting` says how the texts of a request get into a statement. `verbatim` writes them as they
are. `escaped` writes literals that read back to the value, and refuses identifiers and numbers
that are none.
-/

namespace EventReport.Sql

/-- How the texts of a request are written into a statement. -/
inductive Quoting where
  | verbatim
  | escaped
  deriving DecidableEq, Repr, Inhabited

/-- A character within a literal: a backslash stands before a backslash and a quote. -/
def escapeChar : Char → List Char
  | '\\' => ['\\', '\\']
  | '\'' => ['\\', '\'']
  | c => [c]

/-- A character within the literal of a pattern. The wildcards and the backslash of the pattern are
escaped by a backslash of the pattern, and each backslash of the pattern is two in the literal. -/
def escapePatternChar : Char → List Char
  | '\\' => ['\\', '\\', '\\', '\\']
  | '%' => ['\\', '\\', '%']
  | '_' => ['\\', '\\', '_']
  | '\'' => ['\\', '\'']
  | c => [c]

/-- The value within a literal. -/
def escapeText (value : String) : String :=
  String.ofList (value.toList.flatMap escapeChar)

/-- The value within the literal of a pattern that it alone matches. -/
def escapePattern (value : String) : String :=
  String.ofList (value.toList.flatMap escapePatternChar)

/-- Letters and digits of ASCII and the characters that `extra` allows, and at least one of them. -/
def isName (extra : Char → Bool) (name : String) : Bool :=
  name ≠ "" && name.toList.all fun c => c.isAlphanum || extra c

/-- An identifier: a name with underscores and dots. -/
def isIdentifier : String → Bool :=
  isName fun c => c = '_' || c = '.'

/-- A part of a table's name: a name with underscores and hyphens. -/
def isTablePart : String → Bool :=
  isName fun c => c = '_' || c = '-'

/-- The name of a column as an alias: every dot becomes two underscores. -/
def aliasOf (name : String) : String :=
  String.ofList (name.toList.flatMap fun c => if c = '.' then ['_', '_'] else [c])

/-- A text is a finite decimal number. -/
def isFiniteNumber (cs : List Char) : Bool :=
  match Number.Literal.read? cs with
  | some l => l.isFinite
  | none => false

theorem isFiniteNumber_eq_true {cs : List Char} :
    isFiniteNumber cs = true ↔ ∃ l, Number.Literal.read? cs = some l ∧ l.isFinite := by
  unfold isFiniteNumber
  cases Number.Literal.read? cs <;> simp

namespace Quoting

/-- The literal of a text. -/
def literal (q : Quoting) (value : String) : String :=
  match q with
  | verbatim => "'" ++ value ++ "'"
  | escaped => "'" ++ escapeText value ++ "'"

/-- The literal of a pattern with `value` between `before` and `after`. -/
def pattern (q : Quoting) (before value after : String) : String :=
  match q with
  | verbatim => "'" ++ before ++ value ++ after ++ "'"
  | escaped => "'" ++ before ++ escapePattern value ++ after ++ "'"

/-- The literal of a regular expression; a raw one, unless it is escaped. -/
def regexp (q : Quoting) (expression : String) : String :=
  match q with
  | verbatim => "r'" ++ expression ++ "'"
  | escaped => "'" ++ escapeText expression ++ "'"

/-- A number, without blanks at its ends if it is checked. -/
def number (q : Quoting) (text : String) : Except ReportError String :=
  match q with
  | verbatim => pure text
  | escaped =>
    let cs := Text.trim text.toList
    if isFiniteNumber cs then pure (String.ofList cs) else throw (.invalidNumber text)

/-- An identifier. -/
def identifier (q : Quoting) (name : String) : Except ReportError String :=
  match q with
  | verbatim => pure name
  | escaped => if isIdentifier name then pure name else throw (.invalidIdentifier name)

/-- A part of the name of a table. -/
def tablePart (q : Quoting) (part : String) : Except ReportError String :=
  match q with
  | verbatim => pure part
  | escaped => if isTablePart part then pure part else throw (.invalidIdentifier part)

end Quoting

end EventReport.Sql

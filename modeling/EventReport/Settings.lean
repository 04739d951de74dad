import EventReport.Filter.Predicate
import EventReport.Toml.Table

/-! # Settings

`Settings.ofText` reads the settings of the program from a TOML text. Every setting has a default,
and unknown ones are passed over. A section can be a table or an array of its settings in order.
-/

namespace EventReport

open Toml

/-- How much is logged. -/
inductive LogLevel where
  | trace
  | debug
  | info
  | warn
  | error
  deriving DecidableEq, Repr

/-- How it is logged. -/
inductive LogFormat where
  | console
  | json
  deriving DecidableEq, Repr

/-- The settings of logging. -/
structure LogSettings where
  level : LogLevel := .info
  format : LogFormat := .console
  deriving DecidableEq, Repr

/-- The table that is read where the command line does not name one. -/
structure TableSettings where
  project : Option String := none
  dataset : Option String := none
  table : String := "events"
  deriving DecidableEq, Repr

/-- The settings of the program. -/
structure Settings where
  log : LogSettings := {}
  compiler : CompileOptions := {}
  table : TableSettings := {}
  deriving DecidableEq, Repr

/-- A setting that is read but cannot be used. -/
inductive UnusableSetting where
  | noDepth
  | emptyTable
  deriving DecidableEq, Repr

/-- Why settings cannot be read: the text is no TOML or holds the wrong kind of value, or a setting
cannot be used. -/
inductive SettingsError where
  | malformed
  | unusable (setting : UnusableSetting)
  deriving DecidableEq, Repr

namespace UnusableSetting

/-- The section of the setting. -/
def sectionName : UnusableSetting → String
  | noDepth => "compiler"
  | emptyTable => "table"

/-- The name of the setting. -/
def field : UnusableSetting → String
  | noDepth => "max_filter_depth"
  | emptyTable => "table"

/-- What the setting has to be. -/
def detail : UnusableSetting → String
  | noDepth => "must be at least 1"
  | emptyTable => "must not be empty"

/-- Words the fault. -/
def message (s : UnusableSetting) : String :=
  "[" ++ s.sectionName ++ "] has invalid " ++ s.field ++ ": " ++ s.detail

end UnusableSetting

/-- The levels and their names. -/
def LogLevel.names : List (String × LogLevel) :=
  [("trace", trace), ("debug", debug), ("info", info), ("warn", warn), ("error", error)]

/-- The name of a level. -/
def LogLevel.name : LogLevel → String
  | trace => "trace"
  | debug => "debug"
  | info => "info"
  | warn => "warn"
  | error => "error"

/-- The formats and their names. -/
def LogFormat.names : List (String × LogFormat) :=
  [("console", console), ("json", json)]

/-- The name of a format. -/
def LogFormat.name : LogFormat → String
  | console => "console"
  | json => "json"

/-- The ways of quoting and their names. -/
def quotingNames : List (String × Sql.Quoting) :=
  [("verbatim", .verbatim), ("escaped", .escaped)]

/-! ## Reading -/

/-- The settings of a section: by name, or in order. -/
inductive Section where
  | named (entries : Entries)
  | ordered (items : List Node)

/-- A node as a section. A time is one that sets nothing. -/
def Section.ofNode? : Node → Option Section
  | .table _ entries => some (.named entries)
  | .array items => some (.ordered items)
  | .tables before last => some (.ordered ((before ++ [last]).map (.table .headed)))
  | .scalar .moment => some (.named [])
  | .scalar _ => none

/-- The setting with a name, which comes at a place in the order of the section. -/
def Section.get? (name : String) (place : Nat) : Section → Option Node
  | named entries => entries.lookup name
  | ordered items => items[place]?

/-- A setting that is read, or its default where it is absent. -/
def orDefault {α : Type} (value : α) (read : Node → Option α) : Option Node → Option α
  | none => some value
  | some node => read node

/-- A table or an array without content. -/
def isEmptyNode : Node → Bool
  | .table _ [] => true
  | .array [] => true
  | _ => false

/-- One of the values with a name: by its name, or by a table with the name as its only key and
nothing under it. -/
def named? {α : Type} (known : List (String × α)) : Node → Option α
  | .scalar (.text s) => known.lookup s
  | .table _ [(key, node)] => if isEmptyNode node then known.lookup key else none
  | _ => none

/-- A text. -/
def text? : Node → Option String
  | .scalar (.text s) => some s
  | _ => none

/-- A whole number that is not negative. -/
def count? : Node → Option UInt64
  | .scalar (.integer i) => if 0 ≤ i then some (.ofNat i.toNat) else none
  | _ => none

/-- Reads the section on logging. -/
def LogSettings.ofNode? (node : Node) : Option LogSettings := do
  let s ← Section.ofNode? node
  let level ← orDefault .info (named? LogLevel.names) (s.get? "level" 0)
  let format ← orDefault .console (named? LogFormat.names) (s.get? "format" 1)
  return { level, format }

/-- Reads the section on compiling. -/
def CompileOptions.ofNode? (node : Node) : Option CompileOptions := do
  let s ← Section.ofNode? node
  let other : CompileOptions := {}
  let maxDepth ← orDefault other.maxDepth count? (s.get? "max_filter_depth" 0)
  let quoting ← orDefault other.quoting (named? quotingNames) (s.get? "quoting" 1)
  return { maxDepth, quoting }

/-- Reads the section on the table. -/
def TableSettings.ofNode? (node : Node) : Option TableSettings := do
  let s ← Section.ofNode? node
  let other : TableSettings := {}
  let project ← orDefault none (fun n => (text? n).map some) (s.get? "project" 0)
  let dataset ← orDefault none (fun n => (text? n).map some) (s.get? "dataset" 1)
  let table ← orDefault other.table text? (s.get? "table" 2)
  return { project, dataset, table }

namespace Settings

/-- Reads the sections. -/
def ofEntries? (entries : Entries) : Option Settings := do
  let log ← orDefault {} LogSettings.ofNode? (entries.lookup "log")
  let compiler ← orDefault {} CompileOptions.ofNode? (entries.lookup "compiler")
  let table ← orDefault {} TableSettings.ofNode? (entries.lookup "table")
  return { log, compiler, table }

/-- Makes sure that the settings can be used. -/
def check (s : Settings) : Except SettingsError Settings :=
  if s.compiler.maxDepth = 0 then throw (.unusable .noDepth)
  else if s.table.table = "" then throw (.unusable .emptyTable)
  else pure s

/-- Reads settings from a text. -/
def ofText (text : String) : Except SettingsError Settings :=
  match (Entries.ofText? text).bind ofEntries? with
  | some s => s.check
  | none => throw .malformed

end Settings

end EventReport

import EventReport.Toml.Statement

/-! # Tables in TOML

`Entries.ofStatements?` arranges the statements of a text into nested tables. No statement may
change what an earlier one has settled: a key has one value, a table has one header, and a dotted
key reaches only into tables that came to be by a dotted key or by the header of a table within
them.
-/

namespace EventReport.Toml

/-- How a table came to be: by the header of a table within it, by a dotted key, by a header of its
own, or as a value. -/
inductive Origin where
  | implied
  | dotted
  | headed
  | inline
  deriving DecidableEq, Repr

/-- A value in its place. The last table of an array of tables is the one that is still open. -/
inductive Node where
  | scalar (s : Scalar)
  | array (items : List Node)
  | table (origin : Origin) (entries : List (String × Node))
  | tables (before : List (List (String × Node))) (last : List (String × Node))
  deriving Repr

/-- What a table holds. -/
abbrev Entries := List (String × Node)

namespace Entries

/-- Puts a node under a key, in place of what is there. -/
def put (key : String) (node : Node) : Entries → Entries
  | [] => [(key, node)]
  | (k, old) :: rest => if k = key then (k, node) :: rest else (k, old) :: put key node rest

/-- Adds a value under a dotted key. -/
def addPair (value : Node) : (path : List String) → Entries → Option Entries
  | [], _ => none
  | [key], entries => if (entries.lookup key).isSome then none else some (put key value entries)
  | [group, key], entries =>
    match entries.lookup group with
    | none => some (put group (.table .dotted [(key, value)]) entries)
    | some (.table .dotted inner) =>
      (addPair value [key] inner).map fun inner => put group (.table .dotted inner) entries
    | some _ => none
  | group :: path, entries =>
    match entries.lookup group with
    | none =>
      (addPair value path []).map fun inner => put group (.table .dotted inner) entries
    | some (.table .dotted inner) =>
      (addPair value path inner).map fun inner => put group (.table .dotted inner) entries
    | some (.table .implied inner) =>
      (addPair value path inner).map fun inner => put group (.table .implied inner) entries
    | some (.tables before last) =>
      (addPair value path last).map fun last => put group (.tables before last) entries
    | some _ => none

/-- Changes the table that a header names, which is the last one where there are several. Tables on
the way that are not there yet come to be. -/
def changeAt (change : Entries → Option Entries) : (path : List String) → Entries → Option Entries
  | [], entries => change entries
  | key :: path, entries =>
    match entries.lookup key with
    | none =>
      (changeAt change path []).map fun inner => put key (.table .implied inner) entries
    | some (.table origin inner) =>
      if origin = .inline then none
      else (changeAt change path inner).map fun inner => put key (.table origin inner) entries
    | some (.tables before last) =>
      (changeAt change path last).map fun last => put key (.tables before last) entries
    | some _ => none

/-- Begins the table under a key. It may be there already if only tables within it had headers. -/
def beginTable (key : String) (entries : Entries) : Option Entries :=
  match entries.lookup key with
  | none => some (put key (.table .headed []) entries)
  | some (.table .implied inner) => some (put key (.table .headed inner) entries)
  | some _ => none

/-- Begins a further table of the array of tables under a key. -/
def beginItem (key : String) (entries : Entries) : Option Entries :=
  match entries.lookup key with
  | none => some (put key (.tables [] []) entries)
  | some (.tables before last) => some (put key (.tables (before ++ [last]) []) entries)
  | some _ => none

/-- Changes the table that holds the last key of a path. -/
def changeLast (change : String → Entries → Option Entries) (path : List String)
    (entries : Entries) : Option Entries := do
  let key ← path.getLast?
  changeAt (change key) path.dropLast entries

end Entries

/-! ## Values in their place -/

namespace Written

mutual

/-- The node of a value, if its tables can be arranged. -/
def toNode? : Written → Option Node
  | .scalar s => some (.scalar s)
  | .array items => (toNodes? items).map .array
  | .table pairs => (addAll pairs []).map (.table .inline)

/-- The nodes of values. -/
def toNodes? : List Written → Option (List Node)
  | [] => some []
  | item :: rest => do
    let node ← toNode? item
    let nodes ← toNodes? rest
    return node :: nodes

/-- Adds the pairs of a table within a line, in order. -/
def addAll : List (List String × Written) → Entries → Option Entries
  | [], entries => some entries
  | (path, value) :: rest, entries => do
    let node ← toNode? value
    let entries ← entries.addPair node path
    addAll rest entries

end

end Written

namespace Entries

/-- Takes in statements in order; the pairs belong to the table at `current`. -/
def takeIn : (current : List String) → List Statement → Entries → Option Entries
  | _, [], entries => some entries
  | _, .table path :: rest, entries => do
    let entries ← changeLast beginTable path entries
    takeIn path rest entries
  | _, .item path :: rest, entries => do
    let entries ← changeLast beginItem path entries
    takeIn path rest entries
  | current, .pair path value :: rest, entries => do
    let node ← value.toNode?
    let entries ← changeAt (addPair node path) current entries
    takeIn current rest entries

/-- The outermost table of a text. -/
def ofStatements? (statements : List Statement) : Option Entries :=
  takeIn [] statements []

/-- Reads a text. -/
def ofText? (text : String) : Option Entries :=
  (Statement.ofText? text).bind ofStatements?

end Entries

end EventReport.Toml

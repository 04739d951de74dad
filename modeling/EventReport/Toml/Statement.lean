import EventReport.Toml.Scalar

/-! # Statements of a TOML text

A TOML text is a list of statements, each on a line of its own: a header that begins a table or a
further item of an array of tables, or a pair of a key and a value. `Statement.ofText?` reads them;
what they make together is the matter of `Toml.Table`.
-/

namespace EventReport.Toml

/-- A value as it is written: arrays and tables can hold values. -/
inductive Written where
  | scalar (s : Scalar)
  | array (items : List Written)
  | table (pairs : List (List String × Written))
  deriving Repr

/-- A line that says something. -/
inductive Statement where
  | table (path : List String)
  | item (path : List String)
  | pair (path : List String) (value : Written)
  deriving Repr

/-- The number of arrays and tables that can lie within each other in one value. -/
def depthLimit : Nat := 79

/-- Reads the items of an array and its closing bracket. A comma can follow the last item. -/
def readItems (value : Scan Written) : (most : Nat) → Scan (List Written)
  | 0, _ => none
  | most + 1, cs =>
    match skipSpace cs with
    | ']' :: rest => some ([], rest)
    | cs => do
      let (first, cs) ← value cs
      match skipSpace cs with
      | ']' :: rest => some ([first], rest)
      | ',' :: rest =>
        let (more, rest) ← readItems value most rest
        return (first :: more, rest)
      | _ => none

/-- Reads a key, an equals sign and a value. -/
def readPair (value : Scan Written) : Scan (List String × Written) := fun cs => do
  let (path, cs) ← readKey cs
  let cs ← char? '=' cs
  let (v, cs) ← value (skipBlanks cs)
  return ((path, v), cs)

/-- Reads the pairs of a table within a line, at least one, and its closing brace. -/
def readPairs (value : Scan Written) : (most : Nat) → Scan (List (List String × Written))
  | 0, _ => none
  | most + 1, cs => do
    let (first, cs) ← readPair value cs
    match skipBlanks cs with
    | '\x7d' :: rest => some ([first], rest)
    | ',' :: rest =>
      let (more, rest) ← readPairs value most rest
      return (first :: more, rest)
    | _ => none

/-- Reads a value in which `depth` arrays and tables can lie within each other. -/
def readValue : (depth : Nat) → Scan Written
  | depth + 1, '[' :: cs =>
    (readItems (readValue depth) cs.length cs).map fun (items, rest) => (.array items, rest)
  | depth + 1, '\x7b' :: cs =>
    match skipBlanks cs with
    | '\x7d' :: rest => some (.table [], rest)
    | cs => (readPairs (readValue depth) cs.length cs).map fun (pairs, rest) => (.table pairs, rest)
  | _, cs => (readScalar cs).map fun (s, rest) => (.scalar s, rest)

namespace Statement

/-- Reads a statement. -/
def read : Scan Statement
  | '[' :: '[' :: cs => do
    let (path, cs) ← readKey cs
    let cs ← word? [']', ']'] cs
    return (.item path, cs)
  | '[' :: cs => do
    let (path, cs) ← readKey cs
    let cs ← char? ']' cs
    return (.table path, cs)
  | cs => do
    let ((path, value), cs) ← readPair (readValue depthLimit) cs
    return (.pair path value, cs)

/-- Reads at most `most` lines, to the end of the text. -/
def readLines : (most : Nat) → List Char → Option (List Statement)
  | _, [] => some []
  | 0, _ => none
  | most + 1, cs =>
    match endLine? cs with
    | some rest => readLines most rest
    | none => do
      let (statement, cs) ← read (skipBlanks cs)
      let rest ← endLine? cs
      let statements ← readLines most rest
      return statement :: statements

/-- The statements of a whole text. A byte order mark can stand before them. -/
def ofText? (text : String) : Option (List Statement) :=
  let cs :=
    match text.toList with
    | '\ufeff' :: cs => cs
    | cs => cs
  readLines cs.length cs

end Statement

end EventReport.Toml

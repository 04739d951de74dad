import EventReport.Cli.Option
import EventReport.Number.Literal
import EventReport.Number.Word

/-! # Arguments of the program

`Invocation.ofArguments` reads the command line. There are two commands, `compile` and `metrics`.
The options for the settings and the log level can be given before the command and after it, and the
one after it counts. An option can be given once.
-/

namespace EventReport.Cli

/-- Why the command line asks for no command: it is misused, or it asks for a text about the
program. -/
inductive Stop where
  | misuse
  | version
  | help
  deriving DecidableEq, Repr

/-- What can be given to every command. -/
structure SharedArguments where
  config : Option String := none
  logLevel : Option String := none
  deriving DecidableEq, Repr

/-- What can be given to `compile`. -/
structure CompileArguments where
  request : Option String := none
  project : Option String := none
  dataset : Option String := none
  table : Option String := none
  range : Option String := none
  maxDepth : Option UInt64 := none
  escaped : Bool := false
  deriving DecidableEq, Repr

/-- A command with what is given to it. -/
inductive Command where
  | compile (arguments : CompileArguments)
  | metrics (verbose : Bool)
  deriving DecidableEq, Repr

/-- What a command line asks for. -/
structure Invocation where
  shared : SharedArguments
  command : Command
  deriving DecidableEq, Repr

/-! ## Values -/

/-- A text that is not empty, as every path is. -/
def path? (s : String) : Option String :=
  if s = "" then none else some s

/-- A whole number that fits a machine word; a plus sign can stand before it. -/
def count? (s : String) : Option UInt64 :=
  let digits :=
    match s.toList with
    | '+' :: cs => cs
    | cs => cs
  let n := Number.digitsValue digits
  if digits ≠ [] ∧ digits.all Char.isDigit ∧ Number.fitsWord n then some (.ofNat n) else none

/-- Sets what is not set yet. -/
def once {α : Type} : (old : Option α) → (value : α) → Except Stop (Option α)
  | none, value => pure (some value)
  | some _, _ => throw .misuse

/-- Raises a flag that is not raised yet. -/
def raise (flag : Bool) : Except Stop Bool :=
  if flag then throw .misuse else pure true

/-! ## Options -/

/-- The options of every command. -/
inductive SharedOption where
  | config (path : String)
  | logLevel (level : String)
  deriving DecidableEq, Repr

/-- The options before a command. -/
inductive TopOption where
  | shared (option : SharedOption)
  | version
  | help
  deriving DecidableEq, Repr

/-- The options of `compile`. -/
inductive CompileOption where
  | shared (option : SharedOption)
  | project (name : String)
  | dataset (name : String)
  | table (name : String)
  | range (text : String)
  | maxDepth (depth : UInt64)
  | escaped
  | help
  deriving DecidableEq, Repr

/-- The options of `metrics`. -/
inductive MetricsOption where
  | shared (option : SharedOption)
  | verbose
  | help
  deriving DecidableEq, Repr

/-- The options of every command, among those of one. -/
def sharedOptions {α : Type} (wrap : SharedOption → α) : List (Known α) :=
  [{ long := "config", short := 'c', form := .value fun s => (path? s).map (wrap ∘ .config) },
    { long := "log-level", short := 'l', form := .value fun s => some (wrap (.logLevel s)) }]

/-- The options before a command. -/
def topOptions : List (Known TopOption) :=
  sharedOptions .shared ++
    [{ long := "version", short := 'V', form := .flag .version },
      { long := "help", short := 'h', form := .flag .help }]

/-- The options of `compile`. -/
def compileOptions : List (Known CompileOption) :=
  sharedOptions .shared ++
    [{ long := "project", form := .value fun s => some (.project s) },
      { long := "dataset", form := .value fun s => some (.dataset s) },
      { long := "table", form := .value fun s => some (.table s) },
      { long := "range", short := 'r', form := .value fun s => some (.range s) },
      { long := "max-depth", form := .value fun s => (count? s).map .maxDepth },
      { long := "escaped", form := .flag .escaped },
      { long := "help", short := 'h', form := .flag .help }]

/-- The options of `metrics`. -/
def metricsOptions : List (Known MetricsOption) :=
  sharedOptions .shared ++
    [{ long := "verbose", short := 'v', form := .flag .verbose },
      { long := "help", short := 'h', form := .flag .help }]

/-! ## Reading -/

/-- Takes in an option of every command. -/
def SharedArguments.take (a : SharedArguments) : SharedOption → Except Stop SharedArguments
  | .config path => do
    let config ← once a.config path
    return { a with config }
  | .logLevel level => do
    let logLevel ← once a.logLevel level
    return { a with logLevel }

/-- What is given after the command, and where that is nothing, what is given before it. -/
def SharedArguments.over (after before : SharedArguments) : SharedArguments where
  config := after.config.or before.config
  logLevel := after.logLevel.or before.logLevel

/-- Takes in what is given to `compile`, in order. -/
def takeCompile (shared : SharedArguments) (a : CompileArguments) :
    List (Given CompileOption) → Except Stop (SharedArguments × CompileArguments)
  | [] => pure (shared, a)
  | .option (.shared option) :: rest => do
    let shared ← shared.take option
    takeCompile shared a rest
  | .option (.project name) :: rest => do
    let project ← once a.project name
    takeCompile shared { a with project } rest
  | .option (.dataset name) :: rest => do
    let dataset ← once a.dataset name
    takeCompile shared { a with dataset } rest
  | .option (.table name) :: rest => do
    let table ← once a.table name
    takeCompile shared { a with table } rest
  | .option (.range text) :: rest => do
    let range ← once a.range text
    takeCompile shared { a with range } rest
  | .option (.maxDepth depth) :: rest => do
    let maxDepth ← once a.maxDepth depth
    takeCompile shared { a with maxDepth } rest
  | .option .escaped :: rest => do
    let escaped ← raise a.escaped
    takeCompile shared { a with escaped } rest
  | .option .help :: _ => throw .help
  | .operand text :: rest => do
    let request ← if text = "" then throw .misuse else once a.request text
    takeCompile shared { a with request } rest
  | _ => throw .misuse

/-- Takes in what is given to `metrics`, in order. -/
def takeMetrics (shared : SharedArguments) (verbose : Bool) :
    List (Given MetricsOption) → Except Stop (SharedArguments × Bool)
  | [] => pure (shared, verbose)
  | .option (.shared option) :: rest => do
    let shared ← shared.take option
    takeMetrics shared verbose rest
  | .option .verbose :: rest => do
    let verbose ← raise verbose
    takeMetrics shared verbose rest
  | .option .help :: _ => throw .help
  | _ => throw .misuse

/-- The commands that help can be asked for. -/
def helpTopics : List (List String) :=
  [[], ["compile"], ["metrics"], ["help"]]

/-- Reads a command with the words after it. -/
def readCommand (before : SharedArguments) (name : String) (rest : List String) :
    Except Stop Invocation :=
  match name with
  | "compile" => do
    let (after, arguments) ← takeCompile {} {} (given compileOptions false none rest)
    return ⟨after.over before, .compile arguments⟩
  | "metrics" => do
    let (after, verbose) ← takeMetrics {} false (given metricsOptions false none rest)
    return ⟨after.over before, .metrics verbose⟩
  | "help" => throw (if rest ∈ helpTopics then .help else .misuse)
  | _ => throw .misuse

/-- Takes in what is given before a command, and reads the command. -/
def takeTop (shared : SharedArguments) : List (Given TopOption) → Except Stop Invocation
  | .option (.shared option) :: rest => do
    let shared ← shared.take option
    takeTop shared rest
  | .option .version :: _ => throw .version
  | .option .help :: _ => throw .help
  | .command name rest :: _ => readCommand shared name rest
  | _ => throw .misuse

/-- Reads the words of a command line. -/
def Invocation.ofArguments (arguments : List String) : Except Stop Invocation :=
  takeTop {} (given topOptions true none arguments)

end EventReport.Cli

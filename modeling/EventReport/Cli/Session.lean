import EventReport.Catalog
import EventReport.Cli.Arguments
import EventReport.Cli.Host
import EventReport.Report
import EventReport.Settings
import EventReport.Wire.Request

/-! # A run of the program

`run` reads the command line, loads the settings and does the command. `compile` is the library with
what the command line gives put over the settings: `CompileArguments.statement` is all of it that
needs no host. A run ends in an `Outcome`.
-/

namespace EventReport.Cli

/-- Why settings cannot be loaded. -/
inductive SettingsFailure where
  | unreadable (cause : ReadError)
  | invalid (cause : SettingsError)
  deriving DecidableEq, Repr

/-- Why a command fails. -/
inductive Failure where
  | settings (path : String) (cause : SettingsFailure)
  | requestFile (path : String) (cause : ReadError)
  | input (cause : ReadError)
  | decoding (cause : ReportError)
  | range (cause : ReportError)
  | noProject
  | noDataset
  | noDepth
  | compiling (cause : ReportError)
  deriving DecidableEq, Repr

/-- How a run ends: with an output, with a failure, or with a command line that is misused. -/
inductive Outcome where
  | done (output : String)
  | failed (failure : Failure)
  | misused
  deriving DecidableEq, Repr

/-! ## Words -/

/-- Words why settings of a file cannot be loaded, the outermost reason first. -/
def SettingsFailure.chain (path : String) : SettingsFailure → List String
  | unreadable cause =>
    ["failed to read config file '" ++ path ++ "': " ++ cause.message, cause.message]
  | invalid .malformed => ["failed to parse config: malformed TOML"]
  | invalid (.unusable setting) => [setting.message]

/-- Words why a command fails, the outermost reason first. -/
def Failure.chain : Failure → List String
  | settings path cause => ("failed to load config " ++ path) :: cause.chain path
  | requestFile path cause => ["failed to read request file: " ++ path, cause.message]
  | input cause => ["failed to read request from stdin", cause.message]
  | decoding cause => ["failed to decode request", cause.message]
  | range cause => ["invalid --range", cause.message]
  | noProject => ["no project given (use --project or [table] project)"]
  | noDataset => ["no dataset given (use --dataset or [table] dataset)"]
  | noDepth => ["--max-depth must be at least 1"]
  | compiling cause => ["failed to compile request", cause.message]

/-- A reason below the outermost one, which has a number if there are several. Its further lines are
indented as far as its first. -/
def indentedReason (number : Option Nat) (reason : String) : String :=
  let margin := if number.isSome then "       " else "    "
  let start :=
    match number with
    | some n =>
      let digits := toString n
      String.ofList (List.replicate (5 - digits.length) ' ') ++ digits ++ ": "
    | none => margin
  start ++ String.ofList
    (reason.toList.flatMap fun c => if c = '\n' then c :: margin.toList else [c])

/-- Writes why a command fails. -/
def Failure.report (f : Failure) : String :=
  match f.chain with
  | [] => "Error\n"
  | [reason] => "Error: " ++ reason ++ "\n"
  | [reason, cause] =>
    "Error: " ++ reason ++ "\n\nCaused by:\n" ++ indentedReason none cause ++ "\n"
  | reason :: causes =>
    "Error: " ++ reason ++ "\n\nCaused by:\n" ++
      Text.joined "\n" (causes.mapIdx fun i cause => indentedReason (some i) cause) ++ "\n"

/-- The name and the version of the program. -/
def versionText : String := "lens 0.1.0\n"

/-- How the program is used. -/
def helpText : String :=
  "Usage: lens [OPTIONS] <COMMAND>\n\n" ++
  "Commands:\n" ++
  "  compile [REQUEST]  compile a request document into SQL\n" ++
  "  metrics            list the metrics\n\n" ++
  "Options:\n" ++
  "  -c, --config <CONFIG>        settings file\n" ++
  "  -l, --log-level <LOG_LEVEL>  how much is logged\n" ++
  "  -V, --version                show the version\n" ++
  "  -h, --help                   show this text\n\n" ++
  "Options of compile:\n" ++
  "      --project <PROJECT>      project of the event table\n" ++
  "      --dataset <DATASET>      dataset of the event table\n" ++
  "      --table <TABLE>          beginning of the name of the event table\n" ++
  "  -r, --range <RANGE>          range of days in place of that of the request\n" ++
  "      --max-depth <MAX_DEPTH>  limit on the depth of filters\n" ++
  "      --escaped                escape values and check names\n\n" ++
  "Options of metrics:\n" ++
  "  -v, --verbose                show the columns as well\n"

/-! ## What a run leaves -/

namespace Outcome

/-- The code that the program exits with. -/
def exitCode : Outcome → UInt32
  | done _ => 0
  | failed _ => 1
  | misused => 2

/-- What the program prints to its output. -/
def output : Outcome → String
  | done output => output
  | failed _ => ""
  | misused => ""

/-- What the program prints about what went wrong. -/
def complaint : Outcome → String
  | done _ => ""
  | failed failure => failure.report
  | misused => helpText

end Outcome

/-! ## Metrics -/

/-- A metric in the list of metrics. -/
def metricText (verbose : Bool) (key : MetricKey) : String :=
  let column := key.column
  key.name ++ "\n" ++
    if verbose then
      "  grouped: " ++ (if column.grouped then "inner stage" else "no") ++ "\n" ++
        "  inner:   " ++ column.inner.render ++ "\n" ++
        "  outer:   " ++ column.outer.render ++ "\n"
    else ""

/-- The list of metrics. -/
def metricsText (verbose : Bool) : String :=
  Text.joined "" (MetricKey.all.map (metricText verbose))

/-! ## Compiling -/

namespace CompileArguments

/-- The request over the range that is given, if one is. -/
def withRange (a : CompileArguments) (today : Calendar.Date) (r : Request) :
    Except Failure Request :=
  match a.range with
  | none => pure r
  | some text =>
    match Calendar.DayRange.parse today text with
    | .ok range => pure { r with range }
    | .error e => throw (.range e)

/-- The table that is given, each part first by an argument, then by a setting. -/
def eventTable (a : CompileArguments) (s : TableSettings) : Except Failure EventTable :=
  match a.project.or s.project, a.dataset.or s.dataset with
  | none, _ => throw .noProject
  | some _, none => throw .noDataset
  | some project, some dataset => pure ⟨project, dataset, a.table.getD s.table⟩

/-- The options that are given, first by an argument, then by a setting. -/
def options (a : CompileArguments) (s : CompileOptions) : Except Failure CompileOptions :=
  let maxDepth := a.maxDepth.getD s.maxDepth
  if maxDepth = 0 then throw .noDepth
  else pure ⟨maxDepth, if a.escaped then .escaped else s.quoting⟩

/-- The statement for a document. -/
def statement (a : CompileArguments) (s : Settings) (today : Calendar.Date) (document : String) :
    Except Failure String := do
  let request ← (Request.ofText document).mapError .decoding
  let request ← a.withRange today request
  let table ← a.eventTable s.table
  let options ← a.options s.compiler
  (EventReport.compile options table request).mapError .compiling

end CompileArguments

/-! ## Running -/

variable {m : Type → Type} [Monad m]

/-- Where settings are looked for when no file is named. -/
def defaultPaths : List String :=
  ["configs/config.toml", "lens.toml"]

/-- The first path at which there is something. -/
def firstThere (host : Host m) : List String → m (Option String)
  | [] => pure none
  | path :: rest => do
    if ← host.isThere path then pure (some path) else firstThere host rest

/-- Loads settings from a file. -/
def loadFile (host : Host m) (path : String) : m (Except Failure Settings) := do
  match ← host.readFile path with
  | .error cause => return .error (.settings path (.unreadable cause))
  | .ok text =>
    return (Settings.ofText text).mapError fun cause => .settings path (.invalid cause)

/-- Loads the settings, from the file that is named or one that is there; without one, all settings
are the defaults. -/
def loadSettings (host : Host m) : Option String → m (Except Failure Settings)
  | some path => loadFile host path
  | none => do
    match ← firstThere host defaultPaths with
    | some path => loadFile host path
    | none => return .ok {}

/-- Reads the document, from a file or, without one or with a hyphen for it, from the input. -/
def readDocument (host : Host m) : Option String → m (Except Failure String)
  | none => return (← host.readInput).mapError .input
  | some path => do
    if path = "-" then return (← host.readInput).mapError .input
    else return (← host.readFile path).mapError (.requestFile path)

/-- The outcome of a command. -/
def Outcome.ofExcept : Except Failure String → Outcome
  | .ok output => .done output
  | .error failure => .failed failure

/-- Compiles the document and ends the statement with a line break. -/
def runCompile (host : Host m) (settings : Settings) (a : CompileArguments) :
    m (Except Failure String) := do
  match ← readDocument host a.request with
  | .error failure => return .error failure
  | .ok document =>
    let today ← host.today
    return (a.statement settings today document).map (· ++ "\n")

/-- Does a command with the settings loaded. -/
def runCommand (host : Host m) (settings : Settings) : Command → m (Except Failure String)
  | .compile a => runCompile host settings a
  | .metrics verbose => return .ok (metricsText verbose)

/-- Runs the program. -/
def run (host : Host m) (arguments : List String) : m Outcome := do
  match Invocation.ofArguments arguments with
  | .error .misuse => return .misused
  | .error .version => return .done versionText
  | .error .help => return .done helpText
  | .ok invocation =>
    match ← loadSettings host invocation.shared.config with
    | .error failure => return .failed failure
    | .ok settings => return .ofExcept (← runCommand host settings invocation.command)

end EventReport.Cli

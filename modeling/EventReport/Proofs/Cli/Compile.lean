import EventReport.Cli.Directory
import EventReport.Cli.Session
import EventReport.Proofs.Outcome

/-! # The command `compile` is the library with overrides

What a run of `compile` needs is listed in the order in which it is asked for: settings that load,
a document that can be read and decoded (`Decodes`), a range that can be read if one is given
(`Covers`), a project and a dataset (`Locates`), a depth of at least one, and a request that
compiles (`Compiles`). `Fails` is the first of these that does not hold.

One of the two holds (`compiles_or_fails`). A run that `Compiles` ends with the statement
(`run_of_compiles`), and one that `Fails` ends with that failure (`run_of_fails`); so its exit code,
its output and its complaint are settled (`run_compile`). -/

set_option autoImplicit false

namespace EventReport.Cli

/-! ## The first condition that fails -/

section Conditions

variable (host : Host Id) (named : Option String) (a : CompileArguments)

/-- The file of the settings: the one that is named, else the first default one that is there. -/
def settingsFile : Option String :=
  named.or (defaultPaths.find? host.isThere)

/-- The text of the document: the input, or a file that is named. -/
def documentText : Except ReadError String :=
  match a.request with
  | none => host.readInput
  | some path => if path = "-" then host.readInput else host.readFile path

/-- What a text sets, if it sets anything that can be made out. -/
def settingsOf? (text : String) : Option Settings :=
  (Toml.Entries.ofText? text).bind Settings.ofEntries?

/-- The failure of a document that cannot be read, by where it is sought. -/
def documentFailure : ReadError → Failure :=
  match a.request with
  | none => .input
  | some path => if path = "-" then .input else .requestFile path

/-- The settings load from their file and can be used; without a file they are the defaults. -/
inductive Loads : Settings → Prop
  | defaults : settingsFile host named = none → Loads {}
  | file {path text : String} {s : Settings} : settingsFile host named = some path →
      host.readFile path = .ok text → settingsOf? text = some s → 1 ≤ s.compiler.maxDepth →
      s.table.table ≠ "" → Loads s

/-- The settings load, and the document is read and decoded. -/
inductive Decodes : Settings → Request → Prop
  | mk {s : Settings} {text : String} {r : Request} : Loads host named s →
      documentText host a = .ok text → Request.ofText text = .ok r → Decodes s r

/-- The request is decoded, and its range gives way to the one that is given. -/
inductive Covers : Settings → Request → Prop
  | decoded {s : Settings} {r : Request} : Decodes host named a s r → a.range = none → Covers s r
  | given {s : Settings} {r : Request} {text : String} {range : Calendar.DayRange} :
      Decodes host named a s r → a.range = some text →
      Calendar.DayRange.parse host.today text = .ok range → Covers s { r with range }

/-- The request is there, and so are a project and a dataset. -/
inductive Locates : Settings → Request → EventTable → Prop
  | mk {s : Settings} {r : Request} {project dataset : String} : Covers host named a s r →
      a.project.or s.table.project = some project → a.dataset.or s.table.dataset = some dataset →
      Locates s r ⟨project, dataset, a.table.getD s.table.table⟩

/-- The options with which a request is compiled. -/
def effectiveOptions (s : Settings) : CompileOptions where
  maxDepth := a.maxDepth.getD s.compiler.maxDepth
  quoting := if a.escaped ∨ s.compiler.quoting = .escaped then .escaped else .verbatim

/-- Everything is there, and the request compiles into a statement. -/
inductive Compiles : String → Prop
  | mk {s : Settings} {r : Request} {table : EventTable} {sql : String} :
      Locates host named a s r table → 1 ≤ (effectiveOptions a s).maxDepth →
      compile (effectiveOptions a s) table r = .ok sql → Compiles sql

/-- The first condition that does not hold, the earlier ones holding. -/
inductive Fails : Failure → Prop
  | unreadable {path : String} {cause : ReadError} : settingsFile host named = some path →
      host.readFile path = .error cause → Fails (.settings path (.unreadable cause))
  | malformed {path text : String} : settingsFile host named = some path →
      host.readFile path = .ok text → settingsOf? text = none →
      Fails (.settings path (.invalid .malformed))
  | noDepthSet {path text : String} {s : Settings} : settingsFile host named = some path →
      host.readFile path = .ok text → settingsOf? text = some s → s.compiler.maxDepth = 0 →
      Fails (.settings path (.invalid (.unusable .noDepth)))
  | noTableSet {path text : String} {s : Settings} : settingsFile host named = some path →
      host.readFile path = .ok text → settingsOf? text = some s → 1 ≤ s.compiler.maxDepth →
      s.table.table = "" → Fails (.settings path (.invalid (.unusable .emptyTable)))
  | document {s : Settings} {cause : ReadError} : Loads host named s →
      documentText host a = .error cause → Fails (documentFailure a cause)
  | decoding {s : Settings} {text : String} {cause : ReportError} : Loads host named s →
      documentText host a = .ok text → Request.ofText text = .error cause →
      Fails (.decoding cause)
  | range {s : Settings} {r : Request} {text : String} {cause : ReportError} :
      Decodes host named a s r → a.range = some text →
      Calendar.DayRange.parse host.today text = .error cause → Fails (.range cause)
  | noProject {s : Settings} {r : Request} : Covers host named a s r →
      a.project.or s.table.project = none → Fails .noProject
  | noDataset {s : Settings} {r : Request} {project : String} : Covers host named a s r →
      a.project.or s.table.project = some project → a.dataset.or s.table.dataset = none →
      Fails .noDataset
  | noDepth {s : Settings} {r : Request} {table : EventTable} : Locates host named a s r table →
      (effectiveOptions a s).maxDepth = 0 → Fails .noDepth
  | compiling {s : Settings} {r : Request} {table : EventTable} {cause : ReportError} :
      Locates host named a s r table → 1 ≤ (effectiveOptions a s).maxDepth →
      compile (effectiveOptions a s) table r = .error cause → Fails (.compiling cause)

end Conditions

/-! ## A run under these conditions -/

/-- The outcome of compiling: the statement with a line break, or the failure. -/
def printed (x : Except Failure String) : Outcome :=
  .ofExcept (x.map (· ++ "\n"))

section Run

variable {host : Host Id} {arguments : List String} {shared : SharedArguments}
  {a : CompileArguments} {s : Settings} {r : Request} {table : EventTable}

theorem firstThere_eq_find? (host : Host Id) (paths : List String) :
    (firstThere host paths).run = paths.find? host.isThere := by
  induction paths with
  | nil => rfl
  | cons path rest ih =>
    rw [firstThere, Id.run_bind, List.find?_cons, ← ih]
    rcases host.isThere path with _ | _ <;> rfl

/-- The settings come from their file, if there is one. -/
theorem loadSettings_eq (host : Host Id) (named : Option String) :
    (loadSettings host named).run =
      match settingsFile host named with
      | some path => (loadFile host path).run
      | none => .ok {} := by
  cases named with
  | some path => rfl
  | none =>
    rw [loadSettings, Id.run_bind, firstThere_eq_find?, settingsFile, Option.none_or]
    cases defaultPaths.find? host.isThere <;> rfl

theorem loadFile_eq (host : Host Id) (path : String) :
    (loadFile host path).run =
      match host.readFile path with
      | .error cause => .error (.settings path (.unreadable cause))
      | .ok text =>
        (Settings.ofText text).mapError fun cause => .settings path (.invalid cause) := by
  rw [loadFile, Id.run_bind]
  rcases host.readFile path with _ | _ <;> rfl

theorem one_le_iff {depth : UInt64} : 1 ≤ depth ↔ ¬ depth = 0 := by
  rw [UInt64.le_iff_toNat_le, ← UInt64.toNat_inj]
  exact Nat.one_le_iff_ne_zero

theorem settings_eq (text : String) :
    Settings.ofText text =
      match settingsOf? text with
      | some s => s.check
      | none => .error .malformed := rfl

theorem loadSettings_of_loads {named : Option String} (h : Loads host named s) :
    (loadSettings host named).run = .ok s := by
  rw [loadSettings_eq]
  cases h with
  | defaults hnone => rw [hnone]
  | file hpath hread htext hdepth htable =>
    rw [hpath]
    simp only [loadFile_eq, hread, settings_eq, htext, Settings.check,
      if_neg (one_le_iff.mp hdepth), if_neg htable]
    rfl

theorem readDocument_eq (host : Host Id) (a : CompileArguments) :
    (readDocument host a.request).run = (documentText host a).mapError (documentFailure a) := by
  unfold documentText documentFailure
  cases a.request with
  | none => rfl
  | some path =>
    simp only [readDocument]
    split <;> rfl

theorem options_of_noDepth (h : (effectiveOptions a s).maxDepth = 0) :
    a.options s.compiler = .error .noDepth :=
  if_pos h

theorem options_of_depth (h : 1 ≤ (effectiveOptions a s).maxDepth) :
    a.options s.compiler = .ok (effectiveOptions a s) := by
  have hdepth : ¬ a.maxDepth.getD s.compiler.maxDepth = 0 := one_le_iff.mp h
  have hquoting : (if a.escaped then .escaped else s.compiler.quoting) =
      (effectiveOptions a s).quoting := by
    cases hescaped : a.escaped <;> cases hset : s.compiler.quoting <;>
      simp [effectiveOptions, hescaped, hset]
  rw [CompileArguments.options, if_neg hdepth, hquoting]
  rfl

variable (h : Invocation.ofArguments arguments = .ok ⟨shared, .compile a⟩)
include h

/-- A run of `compile` goes from the settings to the document and its statement. -/
theorem run_eq :
    (run host arguments).run = printed (do
      let s ← (loadSettings host shared.config).run
      let document ← (readDocument host a.request).run
      a.statement s host.today document) := by
  rw [run, h]
  simp only [Id.run_bind]
  cases (loadSettings host shared.config).run with
  | error f => rfl
  | ok s =>
    simp only [runCommand, runCompile, Id.run_bind]
    cases (readDocument host a.request).run <;> rfl

/-- A document that is read comes to its statement. -/
theorem run_of_loads {text : String} (hs : Loads host shared.config s)
    (htext : documentText host a = .ok text) :
    (run host arguments).run = printed (a.statement s host.today text) := by
  rw [run_eq h, loadSettings_of_loads hs, readDocument_eq, htext]
  rfl

/-- A decoded request comes to its range. -/
theorem run_of_decodes (hd : Decodes host shared.config a s r) :
    (run host arguments).run = printed (do
      let request ← a.withRange host.today r
      let table ← a.eventTable s.table
      let options ← a.options s.compiler
      (compile options table request).mapError .compiling) := by
  obtain ⟨hs, htext, hr⟩ := hd
  rw [run_of_loads h hs htext, CompileArguments.statement, hr]
  rfl

/-- A request over its range comes to its table. -/
theorem run_of_covers (hc : Covers host shared.config a s r) :
    (run host arguments).run = printed (do
      let table ← a.eventTable s.table
      let options ← a.options s.compiler
      (compile options table r).mapError .compiling) := by
  cases hc with
  | decoded hd hnone =>
    rw [run_of_decodes h hd, CompileArguments.withRange, hnone]
    rfl
  | given hd hsome hrange =>
    rw [run_of_decodes h hd, CompileArguments.withRange, hsome]
    simp only [hrange]
    rfl

/-- A request with its table comes to the options. -/
theorem run_of_locates (hl : Locates host shared.config a s r table) :
    (run host arguments).run = printed (do
      let options ← a.options s.compiler
      (compile options table r).mapError .compiling) := by
  obtain ⟨hc, hproject, hdataset⟩ := hl
  rw [run_of_covers h hc, CompileArguments.eventTable, hproject, hdataset]
  rfl

/-- A request with its table and options is compiled. -/
theorem run_of_depth (hl : Locates host shared.config a s r table)
    (hdepth : 1 ≤ (effectiveOptions a s).maxDepth) :
    (run host arguments).run =
      printed ((compile (effectiveOptions a s) table r).mapError .compiling) := by
  rw [run_of_locates h hl, options_of_depth hdepth]
  rfl

theorem run_of_compiles {sql : String} (hc : Compiles host shared.config a sql) :
    (run host arguments).run = .done (sql ++ "\n") := by
  obtain ⟨hl, hdepth, hsql⟩ := hc
  rw [run_of_depth h hl hdepth, hsql]
  rfl

theorem run_of_fails {f : Failure} (hf : Fails host shared.config a f) :
    (run host arguments).run = .failed f := by
  cases hf with
  | unreadable hpath hread =>
    rw [run_eq h, loadSettings_eq, hpath]
    simp only [loadFile_eq, hread]
    rfl
  | malformed hpath hread htext =>
    rw [run_eq h, loadSettings_eq, hpath]
    simp only [loadFile_eq, hread, settings_eq, htext]
    rfl
  | noDepthSet hpath hread htext hdepth =>
    rw [run_eq h, loadSettings_eq, hpath]
    simp only [loadFile_eq, hread, settings_eq, htext, Settings.check, if_pos hdepth]
    rfl
  | noTableSet hpath hread htext hdepth htable =>
    rw [run_eq h, loadSettings_eq, hpath]
    simp only [loadFile_eq, hread, settings_eq, htext, Settings.check,
      if_neg (one_le_iff.mp hdepth), if_pos htable]
    rfl
  | document hs hread =>
    rw [run_eq h, loadSettings_of_loads hs, readDocument_eq, hread]
    rfl
  | decoding hs htext hr =>
    rw [run_of_loads h hs htext, CompileArguments.statement, hr]
    rfl
  | range hd hsome hrange =>
    rw [run_of_decodes h hd, CompileArguments.withRange, hsome]
    simp only [hrange]
    rfl
  | noProject hc hnone =>
    rw [run_of_covers h hc, CompileArguments.eventTable, hnone]
    rfl
  | noDataset hc hproject hnone =>
    rw [run_of_covers h hc, CompileArguments.eventTable, hproject, hnone]
    rfl
  | noDepth hl hdepth =>
    rw [run_of_locates h hl, options_of_noDepth hdepth]
    rfl
  | compiling hl hdepth hsql =>
    rw [run_of_depth h hl hdepth, hsql]
    rfl

end Run

/-! ## One of the conditions fails, or none -/

section Cases

variable (host : Host Id) (named : Option String) (a : CompileArguments)

theorem loads_or_fails : (∃ s, Loads host named s) ∨ ∃ f, Fails host named a f := by
  cases hpath : settingsFile host named with
  | none => exact .inl ⟨_, .defaults hpath⟩
  | some path =>
    rcases hread : host.readFile path with cause | text
    · exact .inr ⟨_, .unreadable hpath hread⟩
    · cases htext : settingsOf? text with
      | none => exact .inr ⟨_, .malformed hpath hread htext⟩
      | some s =>
        by_cases hdepth : s.compiler.maxDepth = 0
        · exact .inr ⟨_, .noDepthSet hpath hread htext hdepth⟩
        · have hdepth := one_le_iff.mpr hdepth
          by_cases htable : s.table.table = ""
          · exact .inr ⟨_, .noTableSet hpath hread htext hdepth htable⟩
          · exact .inl ⟨s, .file hpath hread htext hdepth htable⟩

theorem decodes_or_fails : (∃ s r, Decodes host named a s r) ∨ ∃ f, Fails host named a f := by
  obtain ⟨s, hs⟩ | hf := loads_or_fails host named a
  · cases htext : documentText host a with
    | error cause => exact .inr ⟨_, .document hs htext⟩
    | ok text =>
      cases hr : Request.ofText text with
      | error cause => exact .inr ⟨_, .decoding hs htext hr⟩
      | ok r => exact .inl ⟨s, r, hs, htext, hr⟩
  · exact .inr hf

theorem covers_or_fails : (∃ s r, Covers host named a s r) ∨ ∃ f, Fails host named a f := by
  obtain ⟨s, r, hd⟩ | hf := decodes_or_fails host named a
  · cases hrange : a.range with
    | none => exact .inl ⟨s, r, .decoded hd hrange⟩
    | some text =>
      cases hparse : Calendar.DayRange.parse host.today text with
      | error cause => exact .inr ⟨_, .range hd hrange hparse⟩
      | ok range => exact .inl ⟨s, _, .given hd hrange hparse⟩
  · exact .inr hf

theorem locates_or_fails :
    (∃ s r table, Locates host named a s r table) ∨ ∃ f, Fails host named a f := by
  obtain ⟨s, r, hc⟩ | hf := covers_or_fails host named a
  · cases hproject : a.project.or s.table.project with
    | none => exact .inr ⟨_, .noProject hc hproject⟩
    | some project =>
      cases hdataset : a.dataset.or s.table.dataset with
      | none => exact .inr ⟨_, .noDataset hc hproject hdataset⟩
      | some dataset => exact .inl ⟨s, r, _, hc, hproject, hdataset⟩
  · exact .inr hf

theorem compiles_or_fails :
    (∃ sql, Compiles host named a sql) ∨ ∃ f, Fails host named a f := by
  obtain ⟨s, r, table, hl⟩ | hf := locates_or_fails host named a
  · by_cases hdepth : (effectiveOptions a s).maxDepth = 0
    · exact .inr ⟨_, .noDepth hl hdepth⟩
    · have hdepth := one_le_iff.mpr hdepth
      cases hsql : compile (effectiveOptions a s) table r with
      | error cause => exact .inr ⟨_, .compiling hl hdepth hsql⟩
      | ok sql => exact .inl ⟨sql, hl, hdepth, hsql⟩
  · exact .inr hf

end Cases

/-! ## How the run ends -/

section Ends

variable {host : Host Id} {arguments : List String} {shared : SharedArguments}
  {a : CompileArguments}

theorem exitCode_eq_zero_iff (h : Invocation.ofArguments arguments = .ok ⟨shared, .compile a⟩) :
    (run host arguments).run.exitCode = 0 ↔ ∃ sql, Compiles host shared.config a sql := by
  constructor
  · intro hexit
    obtain hc | ⟨f, hf⟩ := compiles_or_fails host shared.config a
    · exact hc
    · rw [run_of_fails h hf] at hexit
      cases hexit
  · rintro ⟨sql, hc⟩
    rw [run_of_compiles h hc]
    rfl

/-- **The command `compile` is the library with what the command line gives put over the settings.**
It exits with 0 exactly if all conditions hold, and then prints the statement and a line break.
Otherwise exactly one condition is the first that does not hold: the run exits with 1, prints
nothing to its output, and ends with the failure of that condition. -/
theorem run_compile (h : Invocation.ofArguments arguments = .ok ⟨shared, .compile a⟩) :
    ((run host arguments).run.exitCode = 0 ↔ ∃ sql, Compiles host shared.config a sql) ∧
      (∀ sql, Compiles host shared.config a sql →
        (run host arguments).run.output = sql ++ "\n") ∧
      ((¬ ∃ sql, Compiles host shared.config a sql) →
        (run host arguments).run.exitCode = 1 ∧ (run host arguments).run.output = "" ∧
          ∃ f, (∀ g, Fails host shared.config a g ↔ g = f) ∧
            (run host arguments).run = .failed f ∧
            (run host arguments).run.complaint = f.report) := by
  refine ⟨exitCode_eq_zero_iff h, fun sql hc => ?_, fun hnone => ?_⟩
  · rw [run_of_compiles h hc]
    rfl
  · obtain ⟨f, hf⟩ := (compiles_or_fails host shared.config a).resolve_left hnone
    have hrun := run_of_fails h hf
    have hfirst : ∀ g, Fails host shared.config a g ↔ g = f := fun g => by
      constructor
      · intro hg
        have := (run_of_fails h hg).symm.trans hrun
        cases this
        rfl
      · rintro rfl
        exact hf
    rw [hrun]
    exact ⟨rfl, rfl, f, hfirst, rfl, rfl⟩

/-- Settings with a project, a depth of filters and a quoting. -/
def sampleSettings : String :=
  "[table]\nproject = \"p\"\n[compiler]\nmax_filter_depth = 1\nquoting = \"escaped\"\n"

/-- A document with a filter that exceeds the depth of the settings, and with a text that needs
their quoting. -/
def sampleDocument : String :=
  "\x7b\"metrics\":[\x7b\"apiName\":\"events\"\x7d]," ++
  "\"dateRange\":\x7b\"start\":\"2024-01-01\",\"end\":\"2024-01-31\"\x7d," ++
  "\"dimensionFilter\":\x7b\"andGroup\":\x7b\"expressions\":[\x7b\"filter\":" ++
  "\x7b\"fieldName\":\"page\",\"stringFilter\":" ++
  "\x7b\"matchType\":\"EXACT\",\"value\":\"it's\"\x7d\x7d\x7d]\x7d\x7d\x7d"

/-- A directory with the settings and the document, and nothing on the input. -/
def sampleHost : Host Id :=
  (Directory.ofFiles [("lens.toml", sampleSettings), ("request.json", sampleDocument)]).host
    .empty ⟨2024, 3, 1, by decide⟩

/-- The project and the quoting of the settings, with a dataset, a range and a depth on the command
line, give a statement. With the depth of the settings the run fails. Without the dataset it fails
for that, although the depth on the command line is at fault as well. -/
theorem run_compile_sample :
    (∃ sql, Compiles sampleHost none
        { request := "request.json", dataset := "d", range := "2024-02-01,2024-02-29",
          maxDepth := some 2 } sql ∧
      (run sampleHost ["compile", "request.json", "--dataset", "d", "-r",
        "2024-02-01,2024-02-29", "--max-depth=2"]).run.output = sql ++ "\n" ∧
      sql = "SELECT SUM(events) AS events FROM (SELECT COUNT(event_name) AS events FROM " ++
        "`p.d.events_*` WHERE _TABLE_SUFFIX BETWEEN '20240201' AND '20240229' AND " ++
        "page = 'it\\'s');") ∧
    (Fails sampleHost none
        { request := "request.json", dataset := "d", range := "2024-02-01,2024-02-29" }
        (.compiling (.tooDeep 1)) ∧
      (run sampleHost ["compile", "request.json", "--dataset", "d", "-r",
        "2024-02-01,2024-02-29"]).run.exitCode = 1 ∧
      (run sampleHost ["compile", "request.json", "--dataset", "d", "-r",
        "2024-02-01,2024-02-29"]).run.output = "") ∧
    Fails sampleHost none { request := "request.json", maxDepth := some 0 } .noDataset ∧
      (run sampleHost ["compile", "request.json", "--max-depth=0"]).run.exitCode = 1 ∧
      (run sampleHost ["compile", "request.json", "--max-depth=0"]).run.output = "" := by
  let february : Calendar.DayRange :=
    ⟨⟨2024, 2, 1, by decide⟩, ⟨2024, 2, 29, by decide⟩, by decide⟩
  have hfebruary : Calendar.DayRange.parse sampleHost.today "2024-02-01,2024-02-29" =
    .ok february := by decide +kernel
  let settings : Settings := { compiler := ⟨1, .escaped⟩, table := { project := "p" } }
  have hloads : Loads sampleHost none settings :=
    @Loads.file sampleHost none "lens.toml" sampleSettings settings (by decide +kernel) rfl
      (by decide +kernel) (by decide) (by decide)
  -- The document is decoded once, for the depth of the command line and for that of the settings.
  obtain ⟨r, hr, hdepths⟩ := map_eq_ok.mp (show
    (fun r : Request => (compile ⟨2, .escaped⟩ ⟨"p", "d", "events"⟩ { r with range := february },
      compile ⟨1, .escaped⟩ ⟨"p", "d", "events"⟩ { r with range := february })) <$>
        Request.ofText sampleDocument =
      .ok (.ok ("SELECT SUM(events) AS events FROM (SELECT COUNT(event_name) AS events FROM " ++
        "`p.d.events_*` WHERE _TABLE_SUFFIX BETWEEN '20240201' AND '20240229' AND " ++
        "page = 'it\\'s');"), .error (.tooDeep 1)) by decide +kernel)
  obtain ⟨hcompiled, hdeep⟩ := Prod.mk.inj hdepths
  have hdecodes (a : CompileArguments) (ha : a.request = "request.json") :
      Decodes sampleHost none a settings r := by
    refine ⟨hloads, ?_, hr⟩
    rw [documentText, ha]
    rfl
  have hfailed (arguments : List String) (a : CompileArguments) (f : Failure)
      (h : Invocation.ofArguments arguments = .ok ⟨{}, .compile a⟩)
      (hf : Fails sampleHost none a f) :
      (run sampleHost arguments).run.exitCode = 1 ∧ (run sampleHost arguments).run.output = "" := by
    obtain ⟨hzero, -, hfails⟩ := @run_compile sampleHost arguments {} a h
    obtain ⟨hexit, houtput, -⟩ := hfails fun hc => by
      have := hzero.mpr hc
      rw [run_of_fails h hf] at this
      cases this
    exact ⟨hexit, houtput⟩
  refine ⟨?_, ?_, ?_⟩
  · have hc : Compiles sampleHost none
        { request := "request.json", dataset := "d", range := "2024-02-01,2024-02-29",
          maxDepth := some 2 } _ :=
      .mk (.mk (.given (hdecodes _ rfl) rfl hfebruary) rfl rfl) (by decide) hcompiled
    exact ⟨_, hc, (@run_compile sampleHost _ {} _ (by decide +kernel)).2.1 _ hc, rfl⟩
  · have hf : Fails sampleHost none
        { request := "request.json", dataset := "d", range := "2024-02-01,2024-02-29" }
        (.compiling (.tooDeep 1)) :=
      .compiling (.mk (.given (hdecodes _ rfl) rfl hfebruary) rfl rfl) (by decide) hdeep
    exact ⟨hf, hfailed _ _ _ (by decide +kernel) hf⟩
  · have hf : Fails sampleHost none { request := "request.json", maxDepth := some 0 } .noDataset :=
      .noDataset (.decoded (hdecodes _ rfl) rfl) rfl rfl
    exact ⟨hf, hfailed _ _ _ (by decide +kernel) hf⟩

end Ends

end EventReport.Cli

import EventReport.Proofs.Report.Stages

/-! # Names of columns

A stage exposes the aliases of the dimensions and one name for each metric. These names are
different exactly if the aliases are, and none of them is the name of a metric that is asked for
(`compile_distinct`); then every group and every column that the outer stage reads is that of one
item. An alias writes a dot as two underscores, so different names can have one alias
(`compile_collision`), but not if none of their underscores stands before an underscore or a dot
(`aliasOf_inj`). -/

set_option autoImplicit false

namespace EventReport

open Sql

/-! ## Aliases that can be read back -/

/-- The characters of an alias. -/
def aliasChars (cs : List Char) : List Char :=
  cs.flatMap fun c => if c = '.' then ['_', '_'] else [c]

/-- The name that an alias is read as: two underscores are a dot. -/
def nameOfAlias : List Char → List Char
  | '_' :: '_' :: cs => '.' :: nameOfAlias cs
  | c :: cs => c :: nameOfAlias cs
  | [] => []

/-- No underscore stands before an underscore or a dot. -/
def HasLoneUnderscores (cs : List Char) : Prop :=
  cs.IsChain fun a b => ¬ (a = '_' ∧ (b = '_' ∨ b = '.'))

theorem nameOfAlias_cons {c : Char} {cs : List Char} (h : c = '_' → ∀ d ∈ cs.head?, d ≠ '_') :
    nameOfAlias (c :: cs) = c :: nameOfAlias cs := by
  rw [nameOfAlias.eq_2]
  rintro ds rfl rfl
  exact h rfl '_' rfl rfl

theorem head?_aliasChars {cs : List Char} (h : ∀ d ∈ cs.head?, ¬ (d = '_' ∨ d = '.')) :
    ∀ d ∈ (aliasChars cs).head?, d ≠ '_' := by
  cases cs with
  | nil => exact nofun
  | cons c cs =>
    obtain ⟨hline, hdot⟩ := not_or.mp (h c rfl)
    rw [aliasChars, List.flatMap_cons, if_neg hdot]
    rintro _ ⟨⟩
    exact hline

theorem nameOfAlias_aliasChars {cs : List Char} (h : HasLoneUnderscores cs) :
    nameOfAlias (aliasChars cs) = cs := by
  induction cs with
  | nil => rfl
  | cons c cs ih =>
    obtain ⟨hhead, htail⟩ := List.isChain_cons.mp h
    rw [aliasChars, List.flatMap_cons]
    split
    · rename_i hdot
      show '.' :: nameOfAlias (aliasChars cs) = _
      rw [ih htail, hdot]
    · have hlone : c = '_' → ∀ d ∈ (aliasChars cs).head?, d ≠ '_' := fun hline =>
        head?_aliasChars fun d hd hnext => hhead d hd ⟨hline, hnext⟩
      show nameOfAlias (c :: aliasChars cs) = _
      rw [nameOfAlias_cons hlone, ih htail]

/-- Names whose underscores stand alone have different aliases. -/
theorem aliasOf_inj {a b : String} (ha : HasLoneUnderscores a.toList)
    (hb : HasLoneUnderscores b.toList) (h : aliasOf a = aliasOf b) : a = b := by
  have hchars : aliasChars a.toList = aliasChars b.toList := String.ofList_inj.mp h
  have hnames := congrArg nameOfAlias hchars
  rw [nameOfAlias_aliasChars ha, nameOfAlias_aliasChars hb] at hnames
  exact String.toList_inj.mp hnames

/-! ## Names of a stage -/

namespace Sql.Stage

/-- The names that the stage exposes, in order. -/
def names (s : Stage) : List String :=
  s.items.filterMap (·.exposed?)

/-- A name among different ones is that of one item. -/
theorem exposes_of_nodup {s : Stage} (h : s.names.Nodup) {name : String} (hname : name ∈ s.names) :
    s.exposes name := by
  have hone : s.names.count name = 1 := List.count_eq_one_of_mem h hname
  rw [names, List.count_filterMap, List.countP_eq_length_filter] at hone
  simpa [exposes, beq_eq_decide] using hone

theorem ExposesAt.mem_names {s : Stage} {i : Nat} {name : String} (h : s.ExposesAt i name) :
    name ∈ s.names := by
  obtain ⟨item, hi, hname⟩ := h
  exact List.mem_filterMap.mpr ⟨item, List.mem_of_getElem? hi, hname⟩

end Sql.Stage

namespace Report

/-- A stage in which every column has an item of its name exposes the names of the columns. -/
theorem names_columns {columns : List Column} {item : Column → Item} {name : Column → String}
    {groups : List String} (h : ∀ c ∈ columns, (item c).exposed? = some (name c)) :
    Stage.names ⟨columns.map item, groups⟩ = columns.map name := by
  rw [Stage.names, List.filterMap_map, ← List.filterMap_eq_map]
  exact List.filterMap_congr h

section

variable {q : Quoting} {req : Request} {r : Report} (h : r.Projects q req)
include h

theorem Projects.names_inner : r.innerStage.names =
    req.dimensions.map (fun d => aliasOf d.apiName) ++
      req.metricKeys.map (·.column.innerName) := by
  rw [innerStage, names_columns fun c hc => (h.lawful_column hc).inner, h.innerNames]

theorem Projects.names_outer : r.outerStage.names =
    req.dimensions.map (fun d => aliasOf d.apiName) ++
      req.metricKeys.map (·.column.outerName) := by
  rw [outerStage, names_columns fun c hc => (h.lawful_column hc).outer, h.outerNames]

end

end Report

/-! ## Different names -/

/-- The columns that the items of the stage read. -/
def Sql.Stage.reads (s : Stage) : List String :=
  s.items.flatMap (·.expr.reads)

/-- The groups of both stages and the columns that the outer one reads are names of the inner
one. -/
theorem StagesFit.mem_names_inner {q : Quoting} {req : Request} {inner outer : Stage}
    (h : StagesFit q req inner outer) {name : String}
    (hname : name ∈ inner.groups ++ outer.groups ++ outer.reads) : name ∈ inner.names := by
  rcases List.mem_append.mp hname with hname | hname
  · rcases List.mem_append.mp hname with hname | hname
    · obtain ⟨item, hitem, hexposed⟩ := h.innerGroup name hname
      exact List.mem_filterMap.mpr ⟨item, hitem, hexposed⟩
    · obtain ⟨i, hi⟩ := List.mem_iff_getElem?.mp hname
      exact (h.outerGroup i name hi).mem_names
  · obtain ⟨item, hitem, hread⟩ := List.mem_flatMap.mp hname
    obtain ⟨i, hi⟩ := List.mem_iff_getElem?.mp hitem
    exact (h.outerRead i item hi name hread).mem_names

theorem StagesFit.mem_names_outer {q : Quoting} {req : Request} {inner outer : Stage}
    (h : StagesFit q req inner outer) {name : String} (hname : name ∈ outer.groups) :
    name ∈ outer.names := by
  rw [h.outerGroups] at hname
  obtain ⟨d, hd, rfl⟩ := List.mem_map.mp hname
  refine List.mem_filterMap.mpr ⟨.bare (aliasOf d.apiName), ?_, rfl⟩
  rw [h.outerItems]
  exact List.mem_append_left _ (List.mem_map_of_mem hd)

/-- Different names whose underscores stand alone have different aliases. -/
theorem Request.nodup_aliases {req : Request} (hd : (req.dimensions.map (·.apiName)).Nodup)
    (hlone : ∀ d ∈ req.dimensions, HasLoneUnderscores d.apiName.toList) :
    (req.dimensions.map fun d => aliasOf d.apiName).Nodup := by
  have hnames := List.Nodup.map_on (f := aliasOf) ?_ hd
  · rwa [List.map_map] at hnames
  · intro a ha b hb hab
    obtain ⟨d, hdmem, rfl⟩ := List.mem_map.mp ha
    obtain ⟨e, hemem, rfl⟩ := List.mem_map.mp hb
    exact aliasOf_inj (hlone d hdmem) (hlone e hemem) hab

/-- **The names of a stage are different exactly if the aliases are apart.** The dimensions need
different aliases, which they have if their underscores stand alone, and none may be the name of a
metric of the stage. Then every group and every column that is read is that of one item. -/
theorem compile_distinct {options : CompileOptions} {table : EventTable} {req : Request}
    {sql : String} (h : compile options table req = .ok sql)
    (hd : (req.dimensions.map (·.apiName)).Nodup) (hm : (req.metrics.map (·.apiName)).Nodup) :
    ∃ r, Report.ofRequest options table req = .ok r ∧ sql = r.render ∧
      r.innerStage.WrittenAs r.inner ∧ r.outerStage.WrittenAs r.outer ∧
      r.innerStage.names = req.dimensions.map (fun d => aliasOf d.apiName) ++
        req.metricKeys.map (·.column.innerName) ∧
      r.outerStage.names = req.dimensions.map (fun d => aliasOf d.apiName) ++
        req.metricKeys.map (·.column.outerName) ∧
      (r.innerStage.names.Nodup ↔ req.AliasesApart (·.column.innerName)) ∧
      (r.outerStage.names.Nodup ↔ req.AliasesApart (·.column.outerName)) ∧
      ((∀ d ∈ req.dimensions, HasLoneUnderscores d.apiName.toList) →
        (req.dimensions.map fun d => aliasOf d.apiName).Nodup) ∧
      (r.innerStage.names.Nodup →
        ∀ name ∈ r.innerStage.groups ++ r.outerStage.groups ++ r.outerStage.reads,
          r.innerStage.exposes name) ∧
      (r.outerStage.names.Nodup → ∀ name ∈ r.outerStage.groups, r.outerStage.exposes name) := by
  obtain ⟨r, hr, rfl⟩ := map_eq_ok.mp h
  have hprojects := (Report.resolves_of_ofRequest hr).projects
  have hfit := hprojects.stagesFit
  have hkeys : req.metricKeys.Nodup := hprojects.nodup_metricKeys hm
  refine ⟨r, hr, rfl, r.innerStage_writtenAs, r.outerStage_writtenAs, hprojects.names_inner,
    hprojects.names_outer, ?_, ?_, Request.nodup_aliases hd, ?_, ?_⟩
  · rw [hprojects.names_inner]
    exact Request.nodup_names_iff MetricKey.innerName_injective hkeys
  · rw [hprojects.names_outer]
    exact Request.nodup_names_iff MetricKey.outerName_injective hkeys
  · exact fun hinner name hname => Stage.exposes_of_nodup hinner (hfit.mem_names_inner hname)
  · exact fun houter name hname => Stage.exposes_of_nodup houter (hfit.mem_names_outer hname)

/-- A dimension with the alias of a metric that has another name in the inner stage. -/
def usersRequest : Request where
  range := .single ⟨2024, 9, 15, by decide⟩
  dimensions := [{ apiName := "users" }, { apiName := "geo.city" }, { apiName := "geo_city" }]
  metrics := [{ apiName := "users" }, { apiName := "events" }]

theorem compile_distinct_users :
    ∃ (r : Report) (sql : String),
      compile { quoting := .escaped } ⟨"p", "d", "t"⟩ usersRequest = .ok sql ∧
      sql = r.render ∧
      r.innerStage.names = ["users", "geo__city", "geo_city", "user_pseudo_id", "events"] ∧
      r.innerStage.names.Nodup ∧
      r.outerStage.names = ["users", "geo__city", "geo_city", "users", "events"] ∧
      ¬ r.outerStage.names.Nodup ∧
      ∀ name ∈ r.innerStage.groups ++ r.outerStage.groups ++ r.outerStage.reads,
        r.innerStage.exposes name := by
  obtain ⟨sql, h⟩ : ∃ sql, compile { quoting := .escaped } ⟨"p", "d", "t"⟩ usersRequest =
      .ok sql := ⟨_, rfl⟩
  obtain ⟨r, -, hsql, -, -, hinner, houter, -, -, -, hread, -⟩ :=
    compile_distinct h (by decide) (by decide)
  have hnodup : r.innerStage.names.Nodup := by
    rw [hinner]
    decide
  refine ⟨r, sql, h, hsql, hinner, hnodup, houter, ?_, hread hnodup⟩
  rw [houter]
  decide

/-- Two names of one alias, and the names of a metric in both stages. -/
def collidingRequest : Request where
  range := .single ⟨2024, 9, 15, by decide⟩
  dimensions := [{ apiName := "a.b" }, { apiName := "a__b" }, { apiName := "user_pseudo_id" },
    { apiName := "users" }]
  metrics := [{ apiName := "users" }]

/-- Different names of dimensions do not make the names of a stage different. -/
theorem compile_collision :
    ∃ r, Report.ofRequest { quoting := .escaped } ⟨"p", "d", "t"⟩ collidingRequest = .ok r ∧
      compile { quoting := .escaped } ⟨"p", "d", "t"⟩ collidingRequest = .ok r.render ∧
      (collidingRequest.dimensions.map (·.apiName)).Nodup ∧
      (collidingRequest.metrics.map (·.apiName)).Nodup ∧
      r.innerStage.names = ["a__b", "a__b", "user_pseudo_id", "users", "user_pseudo_id"] ∧
      ¬ r.innerStage.names.Nodup ∧
      r.outerStage.names = ["a__b", "a__b", "user_pseudo_id", "users", "users"] ∧
      ¬ r.outerStage.names.Nodup := by
  obtain ⟨r, h⟩ : ∃ r, Report.ofRequest { quoting := .escaped } ⟨"p", "d", "t"⟩ collidingRequest =
      .ok r := ⟨_, rfl⟩
  have hprojects := (Report.resolves_of_ofRequest h).projects
  have hinner := hprojects.names_inner
  have houter := hprojects.names_outer
  refine ⟨r, h, map_eq_ok.mpr ⟨r, h, rfl⟩, by decide, by decide, hinner, ?_, houter, ?_⟩
  · rw [hinner]
    decide
  · rw [houter]
    decide

end EventReport

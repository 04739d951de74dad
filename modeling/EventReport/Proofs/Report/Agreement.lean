import EventReport.Proofs.Report.Columns
import EventReport.Proofs.Report.Validity
import EventReport.Proofs.Sql.Literal

/-! # Both quotings agree

What escaped quoting compiles, verbatim quoting compiles as well, and the statements are the same if
the conditions of the request hold nothing that is escaped or trimmed (`compile_agree`). Names need
no such condition, as escaped quoting accepts none that it would have to change. -/

set_option autoImplicit false

namespace EventReport

open Sql

/-! ## Texts that need no escaping -/

/-- None of the characters is in the text. -/
def Avoids (chars : List Char) (text : String) : Prop :=
  ∀ c ∈ text.toList, c ∉ chars

instance (chars : List Char) (text : String) : Decidable (Avoids chars text) :=
  List.decidableBAll (fun c => c ∉ chars) text.toList

theorem ofList_flatMap_eq_self {text : String} {f : Char → List Char}
    (h : ∀ c ∈ text.toList, f c = [c]) : String.ofList (text.toList.flatMap f) = text := by
  rw [List.flatMap_congr h, List.flatMap_singleton', String.ofList_toList]

theorem literal_agree {value : String} (h : Avoids ['\\', '\''] value) :
    Quoting.verbatim.literal value = Quoting.escaped.literal value := by
  have hvalue : escapeText value = value :=
    ofList_flatMap_eq_self fun c hc => escapeChar_eq (h c hc)
  rw [Quoting.literal, Quoting.literal, hvalue]

theorem pattern_agree {value : String} (h : Avoids ['\\', '\'', '%', '_'] value)
    (before after : String) :
    Quoting.verbatim.pattern before value after = Quoting.escaped.pattern before value after := by
  have hvalue : escapePattern value = value :=
    ofList_flatMap_eq_self fun c hc => escapePatternChar_eq (h c hc)
  rw [Quoting.pattern, Quoting.pattern, hvalue]

/-- A plain name needs no escaping. -/
theorem avoids_of_isPlainName {name : String} (h : IsPlainName ['_', '.'] name) :
    Avoids ['\\', '\''] name := by
  intro c hc hmem
  have hplain := h.2 c hc
  rcases List.mem_cons.mp hmem with rfl | hmem
  · exact absurd hplain (by decide)
  · obtain rfl := List.mem_singleton.mp hmem
    exact absurd hplain (by decide)

/-! ## Conditions -/

/-- The value of the test is written by both quotings alike. -/
def TextTest.NeedsNoEscape (test : TextTest) : Prop :=
  match test.kind with
  | .exact | .notExact => Avoids ['\\', '\''] test.value
  | .regexp | .notRegexp => False
  | .beginsWith | .endsWith | .contains => Avoids ['\\', '\'', '%', '_'] test.value

/-- Nothing of the condition is escaped or trimmed. -/
def Condition.NeedsNoEscape (c : Condition) : Prop :=
  match c.test with
  | .text test => test.NeedsNoEscape ∧ (c.custom = true → Avoids ['\\', '\''] c.field)
  | .number test => Text.trimmed test.value = test.value
  | .inList _ | .between _ => True

instance (test : TextTest) : Decidable test.NeedsNoEscape :=
  match test with
  | ⟨.exact, value, _⟩ | ⟨.notExact, value, _⟩ =>
    inferInstanceAs (Decidable (Avoids ['\\', '\''] value))
  | ⟨.regexp, _, _⟩ | ⟨.notRegexp, _, _⟩ => inferInstanceAs (Decidable False)
  | ⟨.beginsWith, value, _⟩ | ⟨.endsWith, value, _⟩ | ⟨.contains, value, _⟩ =>
    inferInstanceAs (Decidable (Avoids ['\\', '\'', '%', '_'] value))

instance (c : Condition) : Decidable c.NeedsNoEscape :=
  match c with
  | ⟨field, custom, .text test⟩ =>
    inferInstanceAs
      (Decidable (test.NeedsNoEscape ∧ (custom = true → Avoids ['\\', '\''] field)))
  | ⟨_, _, .number test⟩ => inferInstanceAs (Decidable (Text.trimmed test.value = test.value))
  | ⟨_, _, .inList _⟩ | ⟨_, _, .between _⟩ => inferInstanceAs (Decidable True)

theorem TextTest.compile_verbatim_eq {test : TextTest} (h : test.NeedsNoEscape) :
    test.compile .verbatim = test.compile .escaped := by
  obtain ⟨kind, value, caseSensitive⟩ := test
  cases kind with
  | exact => exact congrArg LiteralTest.equal (literal_agree h)
  | notExact => exact congrArg LiteralTest.notEqual (literal_agree h)
  | regexp | notRegexp => exact h.elim
  | beginsWith | endsWith | contains => exact congrArg LiteralTest.like (pattern_agree h _ _)

/-- Names and parts of names are shown as they are by both quotings. -/
theorem carries_identifier (name : String) :
    Carries Eq (Quoting.escaped.identifier name) (Quoting.verbatim.identifier name) :=
  fun _ h => ⟨name, rfl, Quoting.identifier_eq h⟩

theorem carries_tablePart (part : String) :
    Carries Eq (Quoting.escaped.tablePart part) (Quoting.verbatim.tablePart part) :=
  fun _ h => ⟨part, rfl, (tablePart_eq_ok h).1⟩

/-- A number is trimmed by escaped quoting only. -/
theorem carries_number (text : String) :
    Carries (fun shown shown' => Text.trimmed text = text → shown = shown')
      (Quoting.escaped.number text) (Quoting.verbatim.number text) := by
  intro shown h
  refine ⟨text, rfl, fun htrim => ?_⟩
  simp only [Quoting.number] at h
  split at h
  · exact (pure_eq_ok.mp h).symm.trans htrim
  · cases h

theorem Condition.carries_compile (c : Condition) :
    Carries (fun a a' => c.NeedsNoEscape → a = a') (c.compile .escaped) (c.compile .verbatim) := by
  obtain ⟨field, custom, test⟩ := c
  cases test with
  | text test =>
    cases custom with
    | true =>
      refine .ok fun h => ?_
      rw [literal_agree (h.2 rfl), TextTest.compile_verbatim_eq h.1]
    | false =>
      refine (carries_identifier field).bind fun shown shown' hshown => .ok fun h => ?_
      rw [hshown, TextTest.compile_verbatim_eq h.1]
  | number test =>
    refine (carries_identifier field).bind fun shown shown' hshown => ?_
    refine (carries_number test.value).bind fun value value' hvalue => .ok fun h => ?_
    rw [hshown, hvalue h]
  | inList test | between test => exact nofun

/-! ## Filters -/

namespace Filter

mutual

/-- What a filter compiles to with escaped quoting is there with verbatim quoting, and is the same
if no condition needs escaping. -/
theorem carries_compileAt (limit : UInt64) : ∀ (f : Filter) (depth : UInt64),
    Carries (fun part part' => (∀ c ∈ f.leaves, c.NeedsNoEscape) → part = part')
      (f.compileAt ⟨limit, .escaped⟩ depth) (f.compileAt ⟨limit, .verbatim⟩ depth)
  | .leaf c, depth => by
    rw [compileAt, compileAt]
    split
    · exact nofun
    · refine c.carries_compile.bind fun a a' ha => .ok fun h => ?_
      rw [ha (h c (List.mem_singleton_self c))]
  | .node k fs, depth => by
    rw [compileAt, compileAt]
    split
    · exact nofun
    · refine (carries_compileMembers limit fs (depth + 1)).bind fun ps ps' hps => .ok fun h => ?_
      rw [hps h]

theorem carries_compileMembers (limit : UInt64) : ∀ (fs : List Filter) (depth : UInt64),
    Carries (fun ps ps' => (∀ c ∈ leavesAll fs, c.NeedsNoEscape) → ps = ps')
      (compileMembers ⟨limit, .escaped⟩ depth fs) (compileMembers ⟨limit, .verbatim⟩ depth fs)
  | [], depth => by
    rw [compileMembers, compileMembers]
    exact .ok fun _ => rfl
  | f :: fs, depth => by
    rw [compileMembers, compileMembers]
    refine (carries_compileAt limit f depth).bind fun part part' hpart => ?_
    refine (carries_compileMembers limit fs depth).bind fun ps ps' hps => .ok fun h => ?_
    rw [leavesAll, List.forall_mem_append] at h
    rw [hpart h.1, hps h.2]

end

end Filter

/-! ## Reports -/

/-- No condition of the request needs escaping. -/
def Request.NeedsNoEscape (r : Request) : Prop :=
  ∀ f ∈ r.filters, ∀ c ∈ f.leaves, c.NeedsNoEscape

instance (r : Request) : Decidable r.NeedsNoEscape :=
  inferInstanceAs (Decidable (∀ f ∈ r.filters, ∀ c ∈ f.leaves, c.NeedsNoEscape))

theorem carries_compileFilter (limit : UInt64) (filter : Option Filter) :
    Carries (fun part part' => (∀ f ∈ filter, ∀ c ∈ f.leaves, c.NeedsNoEscape) → part = part')
      (compileFilter ⟨limit, .escaped⟩ filter) (compileFilter ⟨limit, .verbatim⟩ filter) := by
  cases filter with
  | none => exact .ok fun _ => rfl
  | some f =>
    intro part hpart
    obtain ⟨part', hpart', hsame⟩ := f.carries_compileAt limit 0 part hpart
    exact ⟨part', hpart', fun h => hsame (h f rfl)⟩

/-- The key of a parameter is an identifier if its alias is one. -/
theorem Dimension.carries_column (d : Dimension) :
    Carries Eq (dimensionColumn .escaped d.custom d.apiName)
      (dimensionColumn .verbatim d.custom d.apiName) := by
  intro c h
  have hplain : IsPlainName ['_', '.'] d.apiName :=
    nameFaults_eq_nil.mp ((d.stopsAtFirst .escaped).exists_ok_iff.mp ⟨c, h⟩) rfl
  have hcolumn : d.column .verbatim = d.column .escaped := by
    rw [column, column, expr, expr, literal_agree (avoids_of_isPlainName hplain)]
  obtain ⟨c', hc'⟩ : ∃ c', dimensionColumn .verbatim d.custom d.apiName = .ok c' :=
    (d.stopsAtFirst .verbatim).exists_ok_iff.mpr rfl
  refine ⟨c', hc', ?_⟩
  rw [dimensionColumn_eq_ok h, dimensionColumn_eq_ok hc', hcolumn]

theorem EventTable.carries_resolve (t : EventTable) :
    Carries Eq (t.resolve .escaped) (t.resolve .verbatim) := by
  refine (carries_tablePart t.project).bind fun project project' hproject => ?_
  refine (carries_tablePart t.dataset).bind fun dataset dataset' hdataset => ?_
  refine (carries_tablePart t.table).bind fun table table' htable => .ok ?_
  rw [hproject, hdataset, htable]

theorem SortKey.carries_resolve (k : SortKey) :
    Carries Eq (k.resolve .escaped) (k.resolve .verbatim) := by
  refine (carries_identifier (aliasOf k.field)).bind fun column column' hcolumn => .ok ?_
  rw [hcolumn]

theorem carries_ofRequest (limit : UInt64) (table : EventTable) (req : Request) :
    Carries (fun r r' => req.NeedsNoEscape → r = r')
      (Report.ofRequest ⟨limit, .escaped⟩ table req)
      (Report.ofRequest ⟨limit, .verbatim⟩ table req) := by
  refine (Carries.mapM fun d _ => d.carries_column).bind fun dimensions dimensions' hd => ?_
  refine (Carries.mapM (R := Eq) fun m _ c h => ⟨c, h, rfl⟩).bind
    fun metrics metrics' hm => ?_
  refine table.carries_resolve.bind fun tables tables' ht => ?_
  refine (carries_compileFilter limit req.dimensionFilter).bind fun event event' he => ?_
  refine (carries_compileFilter limit req.metricFilter).bind fun row row' hr => ?_
  refine (Carries.mapM fun k _ => k.carries_resolve).bind fun order order' ho => .ok fun h => ?_
  rw [List.forall₂_eq_eq_eq] at hd hm ho
  have hevent : event = event' := he fun f hf =>
    h f (List.mem_append_left _ (Option.mem_toList.mpr hf))
  have hrow : row = row' := hr fun f hf =>
    h f (List.mem_append_right _ (Option.mem_toList.mpr hf))
  rw [hd, hm, ht, hevent, hrow, ho]

/-- **Both quotings agree.** A request that compiles with escaped quoting compiles with verbatim
quoting, and to the same statement if no condition needs escaping. -/
theorem compile_agree {limit : UInt64} {table : EventTable} {req : Request} {sql : String}
    (h : compile ⟨limit, .escaped⟩ table req = .ok sql) :
    ∃ sql', compile ⟨limit, .verbatim⟩ table req = .ok sql' ∧
      (req.NeedsNoEscape → sql' = sql) := by
  obtain ⟨r, hr, rfl⟩ := map_eq_ok.mp h
  obtain ⟨r', hr', hsame⟩ := carries_ofRequest limit table req r hr
  refine ⟨r'.render, map_eq_ok.mpr ⟨r', hr', rfl⟩, fun hreq => ?_⟩
  rw [hsame hreq]

/-- A request whose texts hold what only other tests escape. -/
def cleanRequest : Request where
  range := .single ⟨2024, 8, 9, by decide⟩
  dimensions := [{ custom := true, apiName := "plan.type" }, { apiName := "event_date" }]
  metrics := [{ apiName := "sessions" }]
  dimensionFilter := some (.node .and
    [.leaf ⟨"utm source", true, .text ⟨.exact, "50%_", false⟩⟩,
      .node .or [.leaf ⟨"page", false, .text ⟨.contains, "a(b)", false⟩⟩, .node .and []]])
  metricFilter := some (.leaf ⟨"sessions", false, .number ⟨.greater, "+1e3"⟩⟩)
  order := [{ field := "plan.type" }]

theorem compile_agree_clean :
    ∃ sql, compile ⟨20, .escaped⟩ ⟨"p", "d", "t"⟩ cleanRequest = .ok sql ∧
      cleanRequest.NeedsNoEscape ∧
      compile ⟨20, .verbatim⟩ ⟨"p", "d", "t"⟩ cleanRequest = .ok sql := by
  obtain ⟨sql, h⟩ : ∃ sql, compile ⟨20, .escaped⟩ ⟨"p", "d", "t"⟩ cleanRequest = .ok sql :=
    (stopsAtFirst_compile _ _ _).exists_ok_iff.mpr (by decide +kernel)
  have hclean : cleanRequest.NeedsNoEscape := by decide
  obtain ⟨sql', h', hsame⟩ := compile_agree h
  exact ⟨sql, h, hclean, hsame hclean ▸ h'⟩

/-- A wildcard within a pattern is written in two ways. -/
example : Quoting.verbatim.pattern "%" "50%" "%" = "'%50%%'" ∧
    Quoting.escaped.pattern "%" "50%" "%" = "'%50\\\\%%'" := by
  decide

end EventReport

import EventReport.Proofs.Report.Clauses
import EventReport.Proofs.Report.Columns
import EventReport.Proofs.Report.Validity

/-! # The line breaks of a statement

Escaping leaves line breaks as they are (`lineBreaks_literal`), and every other part of an escaped
statement is on one line: names, numbers, days and the words between them. So the line breaks of the
statement are those of the texts in its filters, in order, and the statement is on one line exactly
if all these texts are (`compile_lineBreaks`). -/

set_option autoImplicit false

namespace EventReport

open Sql Text

/-! ## Texts -/

namespace Text

/-- Line feed and carriage return. -/
def isLineBreak (c : Char) : Bool :=
  c = '\n' || c = '\r'

/-- The line breaks of a text, in order. -/
def lineBreaks (s : String) : List Char :=
  s.toList.filter isLineBreak

/-- The text has no line break. -/
def OneLine (s : String) : Prop :=
  lineBreaks s = []

instance (s : String) : Decidable (OneLine s) :=
  inferInstanceAs (Decidable (lineBreaks s = []))

theorem lineBreaks_append (s t : String) :
    lineBreaks (s ++ t) = lineBreaks s ++ lineBreaks t := by
  rw [lineBreaks, String.toList_append, List.filter_append]
  rfl

theorem OneLine.append {s t : String} (hs : OneLine s) (ht : OneLine t) : OneLine (s ++ t) := by
  rw [OneLine, lineBreaks_append]
  exact List.append_eq_nil_iff.mpr ⟨hs, ht⟩

theorem lineBreaks_after {before : String} (h : OneLine before) (s : String) :
    lineBreaks (before ++ s) = lineBreaks s := by
  rw [lineBreaks_append, show lineBreaks before = [] from h, List.nil_append]

theorem lineBreaks_before {after : String} (h : OneLine after) (s : String) :
    lineBreaks (s ++ after) = lineBreaks s := by
  rw [lineBreaks_append, show lineBreaks after = [] from h, List.append_nil]

theorem oneLine_iff {s : String} : OneLine s ↔ '\n' ∉ s.toList ∧ '\r' ∉ s.toList := by
  rw [OneLine, lineBreaks, List.filter_eq_nil_iff]
  constructor
  · intro h
    exact ⟨fun hn => h _ hn rfl, fun hr => h _ hr rfl⟩
  · rintro ⟨hn, hr⟩ c hc hbreak
    simp only [isLineBreak, Bool.or_eq_true, decide_eq_true_eq] at hbreak
    rcases hbreak with rfl | rfl
    · exact hn hc
    · exact hr hc

theorem oneLine_of_forall {s : String} (h : ∀ c ∈ s.toList, isLineBreak c = false) : OneLine s :=
  List.filter_eq_nil_iff.mpr fun c hc => by simp [h c hc]

theorem lineBreaks_joined {sep : String} (hsep : OneLine sep) :
    ∀ parts : List String, lineBreaks (joined sep parts) = parts.flatMap lineBreaks
  | [] => rfl
  | [part] => by simp
  | part :: next :: rest => by
    rw [joined_cons_cons, lineBreaks_append, lineBreaks_before hsep,
      lineBreaks_joined hsep (next :: rest)]
    rfl

theorem oneLine_joined {sep : String} {parts : List String} (hsep : OneLine sep)
    (h : ∀ part ∈ parts, OneLine part) : OneLine (joined sep parts) := by
  rw [OneLine, lineBreaks_joined hsep]
  exact List.flatMap_eq_nil_iff.mpr h

end Text

/-! ## Literals -/

/-- Characters that are spelled with the line breaks that they are. -/
theorem filter_flatMap_escape {escape : Char → List Char}
    (h : ∀ c, (escape c).filter isLineBreak = [c].filter isLineBreak) (cs : List Char) :
    (cs.flatMap escape).filter isLineBreak = cs.filter isLineBreak := by
  induction cs with
  | nil => rfl
  | cons c cs ih =>
    rw [List.flatMap_cons, List.filter_append, h, ih, ← List.filter_append]
    rfl

theorem lineBreaks_escapeText (value : String) :
    lineBreaks (escapeText value) = lineBreaks value := by
  rw [lineBreaks, escapeText, String.toList_ofList]
  refine filter_flatMap_escape (fun c => ?_) value.toList
  unfold escapeChar
  split <;> rfl

theorem lineBreaks_escapePattern (value : String) :
    lineBreaks (escapePattern value) = lineBreaks value := by
  rw [lineBreaks, escapePattern, String.toList_ofList]
  refine filter_flatMap_escape (fun c => ?_) value.toList
  unfold escapePatternChar
  split <;> rfl

theorem lineBreaks_aliasOf (name : String) : lineBreaks (aliasOf name) = lineBreaks name := by
  rw [lineBreaks, aliasOf, String.toList_ofList]
  refine filter_flatMap_escape (fun c => ?_) name.toList
  split
  · rename_i hdot
    rw [hdot]
    rfl
  · rfl

/-- **Escaping leaves line breaks as they are.** -/
theorem lineBreaks_literal (value : String) :
    lineBreaks (Quoting.escaped.literal value) = lineBreaks value := by
  have hquote : OneLine "'" := by decide
  rw [Quoting.literal, lineBreaks_before hquote, lineBreaks_after hquote, lineBreaks_escapeText]

theorem lineBreaks_pattern {before after : String} (hb : OneLine before) (ha : OneLine after)
    (value : String) : lineBreaks (Quoting.escaped.pattern before value after) =
      lineBreaks value := by
  have hquote : OneLine "'" := by decide
  rw [Quoting.pattern, lineBreaks_before hquote, lineBreaks_before ha,
    lineBreaks_after (hquote.append hb), lineBreaks_escapePattern]

theorem TextTest.lineBreaks_compile (test : TextTest) :
    lineBreaks (test.compile .escaped).literal = lineBreaks test.value := by
  unfold compile LiteralTest.literal
  cases test.kind
  case exact | notExact => exact lineBreaks_literal _
  case regexp | notRegexp => exact lineBreaks_literal _
  all_goals exact lineBreaks_pattern (by decide) (by decide) _

/-! ## Names and numbers -/

theorem isLineBreak_of_isWordChar {c : Char} (h : isWordChar c) : isLineBreak c = false := by
  have hn : c ≠ '\n' := by rintro rfl; exact absurd h (by decide)
  have hr : c ≠ '\r' := by rintro rfl; exact absurd h (by decide)
  simp [isLineBreak, hn, hr]

theorem isLineBreak_of_isWordText {name : String} (h : isWordText name) :
    ∀ c ∈ name.toList, isLineBreak c = false := by
  simp only [isWordText, Bool.and_eq_true, List.all_eq_true] at h
  exact fun c hc => isLineBreak_of_isWordChar (h.2 c hc)

theorem oneLine_of_isWordText {name : String} (h : isWordText name) : OneLine name :=
  oneLine_of_forall (isLineBreak_of_isWordText h)

/-- A number consists of signs and word characters. -/
theorem oneLine_of_isNumber {value : String} (h : IsNumber value) : OneLine value := by
  obtain ⟨ts, hts, hspell⟩ := h
  refine oneLine_of_forall fun c hc => ?_
  rw [← (hspell true).chars] at hc
  obtain ⟨t, ht, hc⟩ := List.mem_flatMap.mp hc
  rcases hts.sign_or_numeral t ht with ⟨s, hs, rfl⟩ | ⟨text, hnumeral, rfl⟩
  · rw [List.mem_singleton.mp hc]
    rcases hs with rfl | rfl <;> rfl
  · exact isLineBreak_of_isWordText hnumeral.1 c hc

theorem oneLine_of_isTablePart {part : String} (h : isTablePart part) : OneLine part := by
  simp only [isTablePart, isName, Bool.and_eq_true, List.all_eq_true] at h
  refine oneLine_of_forall fun c hc => ?_
  by_cases hhyphen : c = '-'
  · rw [hhyphen]; rfl
  · have hword := h.2 c hc
    simp only [hhyphen, decide_false, Bool.or_false] at hword
    exact isLineBreak_of_isWordChar (by rw [isWordChar, hword]; rfl)

/-! ## Conditions -/

/-- The texts of a condition that its atom holds as literals: the value that a text is compared
with, and the name of a parameter before it. -/
def Condition.texts (c : Condition) : List String :=
  match c.test with
  | .text test => if c.custom then [c.field, test.value] else [test.value]
  | _ => []

theorem LiteralTest.lineBreaks_render {subject : String} (h : OneLine subject)
    (test : LiteralTest) : lineBreaks (test.render subject) = lineBreaks test.literal := by
  have hcall : ∀ {call : String} (l : String), OneLine call →
      lineBreaks (call ++ subject ++ ", " ++ l ++ ")") = lineBreaks l := fun l hcall => by
    rw [lineBreaks_before (by decide), lineBreaks_after ((hcall.append h).append (by decide))]
  cases test with
  | equal l | notEqual l | like l => exact lineBreaks_after (h.append (by decide)) l
  | matching l | notMatching l => exact hcall l (by decide)

/-- The line breaks of an atom are those of the texts of its condition. -/
theorem Condition.lineBreaks_render {c : Condition} {a : Atom} (h : c.compile .escaped = .ok a) :
    lineBreaks a.render = c.texts.flatMap lineBreaks := by
  cases becomes_of_compile h with
  | param key test =>
    have hopen : OneLine ("EXISTS(SELECT 1 FROM UNNEST(" ++ eventParams ++ ") WHERE key = ") := by
      decide
    have hand : OneLine " AND " := by decide
    have hclose : OneLine ")" := by decide
    have hsubject : OneLine "value.string_value" := by decide
    have hkey := lineBreaks_literal key
    have hvalue := (LiteralTest.lineBreaks_render hsubject _).trans test.lineBreaks_compile
    unfold Atom.render
    rw [lineBreaks_before hclose, lineBreaks_append, lineBreaks_before hand, lineBreaks_after hopen,
      hkey, hvalue]
    simp [texts]
  | column test hname =>
    have hsubject := oneLine_of_isWordText (identifier_eq_ok hname).2
    have hvalue := (LiteralTest.lineBreaks_render hsubject _).trans test.lineBreaks_compile
    unfold Atom.render
    rw [hvalue]
    simp [texts]
  | @number field custom test value hname hvalue =>
    have hsubject : OneLine field := oneLine_of_isWordText (identifier_eq_ok hname).2
    have hsymbol : OneLine test.comparison.symbol := by
      cases test.comparison <;> decide
    have hblank : OneLine " " := by decide
    exact (((hsubject.append hblank).append hsymbol).append hblank).append
      (oneLine_of_isNumber (number_eq_ok hvalue))

/-! ## Predicates -/

namespace Predicate

mutual

/-- The line breaks of a predicate are those of its atoms. -/
theorem lineBreaks_render : ∀ p : Predicate,
    lineBreaks p.render = p.atoms.flatMap fun a => lineBreaks a.render
  | .atom a => by rw [render, atoms, List.flatMap_singleton]
  | .group k members => by
    have hsep : OneLine (" " ++ k.keyword ++ " ") := by cases k <;> decide
    rw [render, atoms, lineBreaks_before (by decide), lineBreaks_after (by decide),
      lineBreaks_joined hsep, lineBreaks_renderAll members]

theorem lineBreaks_renderAll : ∀ ps : List Predicate,
    (renderAll ps).flatMap lineBreaks = (atomsAll ps).flatMap fun a => lineBreaks a.render
  | [] => rfl
  | p :: ps => by
    rw [renderAll, atomsAll, List.flatMap_cons, List.flatMap_append, lineBreaks_render p,
      lineBreaks_renderAll ps]

end

end Predicate

/-- The texts of a filter, from left to right. -/
def Filter.texts (f : Filter) : List String :=
  f.leaves.flatMap Condition.texts

/-- The line breaks of what is left of a filter are those of its texts. -/
theorem lineBreaks_renderPredicate {options : CompileOptions} (hq : options.quoting = .escaped)
    {filter : Option Filter} {part : Option Predicate}
    (h : compileFilter options filter = .ok part) :
    lineBreaks (renderPredicate part) =
      filter.toList.flatMap fun f => f.texts.flatMap lineBreaks := by
  have hatoms : ∀ {cs : List Condition} {as : List Atom},
      List.Forall₂ (fun c a => c.compile options.quoting = .ok a) cs as →
        (as.flatMap fun a => lineBreaks a.render) =
          (cs.flatMap Condition.texts).flatMap lineBreaks := by
    intro cs as has
    induction has with
    | nil => rfl
    | cons hca _ ih =>
      rw [List.flatMap_cons, List.flatMap_cons, List.flatMap_append,
        Condition.lineBreaks_render (hq ▸ hca), ih]
  cases filter with
  | none =>
    obtain rfl := pure_eq_ok.mp h
    rfl
  | some f =>
    have hleaves := hatoms (Filter.leaves_of_compileAt h)
    rw [Option.toList_some, List.flatMap_singleton, Filter.texts, ← hleaves]
    cases part with
    | none => rfl
    | some p => rw [renderPredicate, p.lineBreaks_render, Option.toList_some,
        List.flatMap_singleton]

/-! ## The other parts of a report -/

/-- What a column adds to both stages is on one line. -/
structure Sql.Column.OnOneLine (c : Column) : Prop where
  inner : OneLine c.inner.render
  outer : OneLine c.outer.render
  innerName : OneLine c.innerName
  outerName : OneLine c.outerName

theorem MetricKey.onOneLine_column (key : MetricKey) : key.column.OnOneLine := by
  cases key <;> exact ⟨by decide +kernel, by decide +kernel, by decide, by decide⟩

theorem Dimension.oneLine_expr {d : Dimension} (h : OneLine d.apiName) :
    OneLine (d.expr .escaped).render := by
  unfold Dimension.expr
  split
  · have hopen : OneLine ("(SELECT value.string_value FROM UNNEST(" ++ eventParams ++
        ") WHERE key = ") := by decide +kernel
    have hkey : OneLine (Quoting.escaped.literal d.apiName) := (lineBreaks_literal _).trans h
    exact (hopen.append hkey).append (by decide)
  · split
    · decide +kernel
    · exact h

/-- The name of a dimension that is accepted is on one line, and so is its column. -/
theorem onOneLine_of_dimensionColumn {d : Dimension} {c : Column}
    (h : dimensionColumn .escaped d.custom d.apiName = .ok c) : c.OnOneLine := by
  obtain ⟨shown, hshown, -⟩ := bind_eq_ok.mp h
  obtain ⟨-, halias⟩ := identifier_eq_ok hshown
  have hshown : OneLine (aliasOf d.apiName) := oneLine_of_isWordText halias
  have hname : OneLine d.apiName := (lineBreaks_aliasOf _).symm.trans hshown
  rw [dimensionColumn_eq_ok h]
  exact ⟨((Dimension.oneLine_expr hname).append (by decide)).append hshown, hshown, hshown, hshown⟩

theorem onOneLine_of_metricColumn {name : String} {c : Column} (h : metricColumn name = .ok c) :
    c.OnOneLine := by
  unfold metricColumn at h
  split at h
  · obtain rfl := pure_eq_ok.mp h
    exact MetricKey.onOneLine_column _
  · cases h

theorem oneLine_of_tablePart {part shown : String}
    (h : Quoting.escaped.tablePart part = .ok shown) : OneLine shown := by
  simp only [Quoting.tablePart] at h
  split at h
  · rename_i hpart
    obtain rfl := pure_eq_ok.mp h
    exact oneLine_of_isTablePart hpart
  · cases h

theorem EventTable.oneLine_of_resolve {t : EventTable} {name : String}
    (h : t.resolve .escaped = .ok name) : OneLine name := by
  obtain ⟨project, hproject, h⟩ := bind_eq_ok.mp h
  obtain ⟨dataset, hdataset, h⟩ := bind_eq_ok.mp h
  obtain ⟨table, htable, h⟩ := bind_eq_ok.mp h
  obtain rfl := pure_eq_ok.mp h
  have hdot : OneLine "." := by decide
  exact (((((oneLine_of_tablePart hproject).append hdot).append
    (oneLine_of_tablePart hdataset)).append hdot).append (oneLine_of_tablePart htable)).append
    (by decide)

theorem Calendar.DayRange.oneLine_suffixPredicate (r : Calendar.DayRange) :
    OneLine r.suffixPredicate := by
  have hday : ∀ d : Calendar.Date, OneLine (String.ofList d.compact) := by
    intro d
    refine oneLine_of_forall fun c hc => ?_
    rw [String.toList_ofList] at hc
    rcases d.compact_spec c hc with (rfl | rfl) | hdigit
    · rfl
    · rfl
    · exact isLineBreak_of_isWordChar (isWordChar_of_isDigit hdigit)
  have hopen : OneLine "_TABLE_SUFFIX BETWEEN '" := by decide
  exact (((hopen.append (hday _)).append (by decide)).append (hday _)).append (by decide)

theorem SortKey.oneLine_of_resolve {k : SortKey} {t : OrderTerm} (h : k.resolve .escaped = .ok t) :
    OneLine t.render := by
  obtain ⟨column, hcolumn, h⟩ := bind_eq_ok.mp h
  obtain rfl := pure_eq_ok.mp h
  obtain ⟨rfl, hword⟩ := identifier_eq_ok hcolumn
  refine (oneLine_of_isWordText hword).append ?_
  show OneLine (if k.descending then " DESC" else " ASC")
  split <;> decide

theorem oneLine_clause {keyword sep : String} {parts : List String} (hkeyword : OneLine keyword)
    (hsep : OneLine sep) (h : ∀ part ∈ parts, OneLine part) :
    OneLine (Select.renderClause keyword sep parts) := by
  unfold Select.renderClause
  split
  · rfl
  · exact hkeyword.append (oneLine_joined hsep h)

namespace Report

theorem oneLine_itemList {items : List String} (h : ∀ item ∈ items, OneLine item) :
    OneLine (itemList items) := by
  unfold itemList
  split
  · decide
  · exact oneLine_joined (by decide) h

theorem oneLine_opening {r : Report} (hcolumns : ∀ c ∈ r.columns, c.OnOneLine)
    (htables : OneLine r.tables) : OneLine r.opening := by
  have houter : OneLine (itemList (r.columns.map (·.outer.render))) :=
    oneLine_itemList (List.forall_mem_map.mpr fun c hc => (hcolumns c hc).outer)
  have hinner : OneLine (itemList (r.columns.map (·.inner.render))) :=
    oneLine_itemList (List.forall_mem_map.mpr fun c hc => (hcolumns c hc).inner)
  have hselect : OneLine "SELECT " := by decide
  exact ((((((hselect.append houter).append (by decide)).append hinner).append
    (by decide)).append htables).append (by decide)).append r.range.oneLine_suffixPredicate

theorem oneLine_closing {r : Report} (hcolumns : ∀ c ∈ r.columns, c.OnOneLine) :
    OneLine r.closing := by
  have hinner : ∀ name ∈ r.innerGroups, OneLine name :=
    List.forall_mem_map.mpr fun c hc => (hcolumns c (List.mem_of_mem_filter hc)).innerName
  have houter : ∀ name ∈ r.outerGroups, OneLine name :=
    List.forall_mem_map.mpr fun c hc => (hcolumns c (List.mem_append_left _ hc)).outerName
  have hkeyword : OneLine " GROUP BY " := by decide
  have hcomma : OneLine ", " := by decide
  exact ((oneLine_clause hkeyword hcomma hinner).append (by decide)).append
    (oneLine_clause hkeyword hcomma houter)

theorem lineBreaks_addition {keyword : String} (h : OneLine keyword) (part : Option Predicate) :
    lineBreaks (addition keyword part) = lineBreaks (renderPredicate part) := by
  cases part with
  | none => rfl
  | some p => exact lineBreaks_after h p.render

end Report

/-! ## Statements -/

/-- The texts in the filters of a request, in the order in which the statement has them. -/
def Request.filterTexts (r : Request) : List String :=
  r.filters.flatMap Filter.texts

/-- **The line breaks of an escaped statement are those of the texts in its filters.** So it is on
one line exactly if all these texts are. -/
theorem compile_lineBreaks {options : CompileOptions} (hq : options.quoting = .escaped)
    {table : EventTable} {req : Request} {sql : String} (h : compile options table req = .ok sql) :
    lineBreaks sql = req.filterTexts.flatMap lineBreaks ∧
      (('\n' ∉ sql.toList ∧ '\r' ∉ sql.toList) ↔
        ∀ text ∈ req.filterTexts, '\n' ∉ text.toList ∧ '\r' ∉ text.toList) := by
  obtain ⟨r, hr, rfl⟩ := map_eq_ok.mp h
  have hresolves := Report.resolves_of_ofRequest hr
  have hcolumns : ∀ c ∈ r.columns, c.OnOneLine := by
    intro c hc
    rcases List.mem_append.mp hc with hc | hc
    · obtain ⟨d, -, hd⟩ := exists_of_mem_right hresolves.dimensions c hc
      exact onOneLine_of_dimensionColumn (hq ▸ hd)
    · obtain ⟨m, -, hm⟩ := exists_of_mem_right hresolves.metrics c hc
      exact onOneLine_of_metricColumn hm
  have horder : ∀ term ∈ r.order.map OrderTerm.render, OneLine term := by
    refine List.forall_mem_map.mpr fun t ht => ?_
    obtain ⟨k, -, hk⟩ := exists_of_mem_right hresolves.order t ht
    exact SortKey.oneLine_of_resolve (hq ▸ hk)
  have hopening := Report.oneLine_opening hcolumns
    (EventTable.oneLine_of_resolve (hq ▸ hresolves.tables))
  have hclause : OneLine (Select.renderClause " ORDER BY " ", " (r.order.map OrderTerm.render)) :=
    oneLine_clause (by decide) (by decide) horder
  have hbreaks : lineBreaks r.render = req.filterTexts.flatMap lineBreaks := by
    rw [Report.render_eq, lineBreaks_before (by decide), lineBreaks_before hclause,
      lineBreaks_append, lineBreaks_before (Report.oneLine_closing hcolumns),
      lineBreaks_after hopening, Report.lineBreaks_addition (by decide),
      Report.lineBreaks_addition (by decide), lineBreaks_renderPredicate hq hresolves.eventFilter,
      lineBreaks_renderPredicate hq hresolves.rowFilter, Request.filterTexts, Request.filters,
      ← List.flatMap_append, List.flatMap_assoc]
  refine ⟨hbreaks, ?_⟩
  rw [← oneLine_iff, OneLine, hbreaks, List.flatMap_eq_nil_iff]
  exact forall₂_congr fun text _ => oneLine_iff

/-- A request that asks for a title of two lines and for a parameter of two. -/
def twoLineRequest : Request where
  range := .single ⟨2024, 2, 29, by decide⟩
  metrics := [{ apiName := "events" }]
  dimensionFilter := some (.node .and
    [.leaf ⟨"page_title", false, .text ⟨.contains, "a\nb", false⟩⟩,
      .leaf ⟨"c\rd", true, .text ⟨.exact, "e", false⟩⟩])

theorem compile_lineBreaks_twoLines :
    ∃ sql, compile { quoting := .escaped } ⟨"p", "d", "t"⟩ twoLineRequest = .ok sql ∧
      lineBreaks sql = ['\n', '\r'] ∧
      (('\n' ∉ sql.toList ∧ '\r' ∉ sql.toList) ↔
        ∀ text ∈ ["a\nb", "c\rd", "e"], '\n' ∉ text.toList ∧ '\r' ∉ text.toList) := by
  obtain ⟨sql, h⟩ : ∃ sql, compile { quoting := .escaped } ⟨"p", "d", "t"⟩ twoLineRequest =
    .ok sql := ⟨_, rfl⟩
  obtain ⟨hbreaks, hiff⟩ := compile_lineBreaks rfl h
  exact ⟨sql, h, hbreaks.trans (by decide), hiff⟩

/-- A statement of two lines, though all names in it are accepted and its texts are escaped. -/
theorem compile_lineFeed :
    ¬ ∀ (table : EventTable) (req : Request) (sql : String),
      compile { quoting := .escaped } table req = .ok sql →
        '\n' ∉ sql.toList ∧ '\r' ∉ sql.toList := by
  intro h
  have hsql : compile { quoting := .escaped } ⟨"p", "d", "t"⟩
      { twoLineRequest with
        dimensionFilter := some (.leaf ⟨"page_title", false, .text ⟨.exact, "a\nb", false⟩⟩) } =
      .ok ("SELECT SUM(events) AS events FROM (SELECT COUNT(event_name) AS events FROM " ++
        "`p.d.t_*` WHERE _TABLE_SUFFIX BETWEEN '20240229' AND '20240229' AND " ++
        "page_title = 'a\nb');") := by
    decide +kernel
  exact (h _ _ _ hsql).1 (by decide +kernel)

end EventReport

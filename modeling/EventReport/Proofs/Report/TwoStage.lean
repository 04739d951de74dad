import EventReport.Proofs.Report.Columns
import EventReport.Proofs.Sql.Evaluation

/-! # Two stages compute what one would

The inner stage of a report groups the events more finely than the outer one, which sums up and
counts the groups. The rows of the report are nevertheless what aggregating the events directly
gives: one row for each combination of dimensions that occurs, with the totals of its events
(`two_stages_eq_direct`). -/

set_option autoImplicit false

namespace EventReport

open Sql

/-! ## Events -/

/-- An event: what the metrics read of it, and all else that may be asked of it. -/
structure Event where
  user : Option String
  session : Option String
  revenue : Option ℚ
  name : Option String
  other : Expr → Value

/-- The value of an expression for the event. -/
def Event.read (e : Event) (x : Expr) : Value :=
  if x = .column "user_pseudo_id" then e.user.map .text
  else if x = .sessionKey then e.session.map .text
  else if x = .column "ecommerce.purchase_revenue" then e.revenue.map .number
  else if x = .column "event_name" then e.name.map .text
  else e.other x

theorem Event.read_user (e : Event) :
    e.read (.column "user_pseudo_id") = e.user.map .text := by
  simp [read]

theorem Event.read_session (e : Event) : e.read .sessionKey = e.session.map .text := by
  simp [read]

theorem Event.read_revenue (e : Event) :
    e.read (.column "ecommerce.purchase_revenue") = e.revenue.map .number := by
  simp [read]

theorem Event.read_name (e : Event) : e.read (.column "event_name") = e.name.map .text := by
  simp [read]

/-! ## The report in two stages -/

/-- The SELECT has the list and the groups of the stage. -/
structure Sql.Stage.WrittenAs (s : Stage) (select : Select) : Prop where
  columns : select.columns = s.items.map Item.render
  groups : select.groups = s.groups

namespace Report

/-- The SELECT list and the groups of the inner stage. -/
def innerStage (r : Report) : Stage := ⟨r.columns.map (·.inner), r.innerGroups⟩

def outerStage (r : Report) : Stage := ⟨r.columns.map (·.outer), r.outerGroups⟩

theorem innerStage_writtenAs (r : Report) : r.innerStage.WrittenAs r.inner := by
  refine ⟨?_, rfl⟩
  rw [innerStage, List.map_map]
  rfl

theorem outerStage_writtenAs (r : Report) : r.outerStage.WrittenAs r.outer := by
  refine ⟨?_, rfl⟩
  rw [outerStage, List.map_map]
  rfl

/-- The rows of the report, if both stages are valid: the outer stage over the results of the
inner. -/
def evaluate? (r : Report) (events : List Event) : Option (List Row) :=
  (r.innerStage.run? Event.read (fun _ => true) events).bind
    (r.outerStage.run? Row.read r.innerStage.offers)

end Report

/-! ## The report in one step -/

/-- The value of a metric for some events. -/
def MetricKey.total : MetricKey → List Event → Value
  | events, es => some (.number (es.filterMap (·.name)).length)
  | revenue, es => (nullableSum (es.map (·.revenue))).map .number
  | sessions, es => some (.number (es.filterMap (·.session)).dedup.length)
  | users, es => some (.number (es.filterMap (·.user)).dedup.length)

/-- The values of the dimensions for the event. -/
def combination (dimensions : List Column) (e : Event) : List Value :=
  dimensions.map fun c => e.read c.inner.expr

/-- One row for each combination of dimensions that occurs, with the totals of its events. -/
def directRows (dimensions : List Column) (keys : List MetricKey) (events : List Event) :
    List Row :=
  (events.map (combination dimensions)).dedup.map fun values =>
    List.zipWith (fun c value => (c.outerName, value)) dimensions values ++
      keys.map fun key =>
        (key.name, key.total (events.filter (combination dimensions · = values)))

/-- Without dimensions there is one row. -/
theorem directRows_nil (keys : List MetricKey) {events : List Event} (hne : events ≠ []) :
    directRows [] keys events = [keys.map fun key => (key.name, key.total events)] := by
  have hlength : events.length ≠ 0 := fun h => hne (List.length_eq_zero_iff.mp h)
  have hone : (events.map (combination [])).dedup = [[]] := by
    show (events.map fun _ => ([] : List Value)).dedup = [[]]
    rw [List.map_const', List.replicate_dedup hlength]
  simp [directRows, hone, combination]

theorem reduceOption_texts (f : Event → Option String) (es : List Event) :
    (es.map fun e => (f e).map Cell.text).reduceOption = (es.filterMap f).map Cell.text := by
  rw [List.reduceOption, List.filterMap_map, List.map_filterMap]
  rfl

theorem count_texts (f : Event → Option String) (es : List Event) :
    Value.count (es.map fun e => (f e).map Cell.text) =
      some (.number (es.filterMap f).length) := by
  rw [Value.count, reduceOption_texts, List.length_map]

theorem countDistinct_texts (f : Event → Option String) (es : List Event) :
    Value.countDistinct (es.map fun e => (f e).map Cell.text) =
      some (.number (es.filterMap f).dedup.length) := by
  have hinj : Function.Injective Cell.text := fun _ _ h => Cell.text.inj h
  rw [Value.countDistinct, reduceOption_texts, List.dedup_map_of_injective hinj, List.length_map]

theorem sum_numbers (f : Event → Option ℚ) (es : List Event) :
    Value.sum (es.map fun e => (f e).map Cell.number) =
      (nullableSum (es.map f)).map .number := by
  have hnumber (q : Option ℚ) : (q.map Cell.number).bind Cell.number? = q := by cases q <;> rfl
  rw [Value.sum, List.map_map]
  simp only [Function.comp_def, hnumber]

/-! ## Columns -/

/-- The column is that of a dimension: a group of both stages under its alias. -/
def IsDimension (c : Column) : Prop :=
  ∃ e name, e.isAggregate = false ∧ c = ⟨true, name, name, .named e name, .bare name⟩

/-- The items of the column are named as it says, and the outer one reads the inner one. The column
is grouped unless it is an aggregate already in the inner stage. -/
structure LawfulColumn (c : Column) : Prop where
  inner : c.inner.exposed? = some c.innerName
  outer : c.outer.exposed? = some c.outerName
  grouped : c.grouped = !c.inner.expr.isAggregate
  operand : c.outer.expr.operand = .column c.innerName

theorem IsDimension.lawful {c : Column} (h : IsDimension c) : LawfulColumn c := by
  obtain ⟨e, name, he, rfl⟩ := h
  exact ⟨rfl, rfl, by simp [Item.named, he], rfl⟩

theorem MetricKey.lawful_column (key : MetricKey) : LawfulColumn key.column := by
  cases key <;> exact ⟨rfl, rfl, rfl, rfl⟩

theorem Dimension.isAggregate_expr (q : Quoting) (d : Dimension) :
    (d.expr q).isAggregate = false := by
  rw [expr]
  split
  · rfl
  · split <;> rfl

theorem Dimension.isDimension_column (q : Quoting) (d : Dimension) : IsDimension (d.column q) :=
  ⟨d.expr q, aliasOf d.apiName, d.isAggregate_expr q, rfl⟩

/-! ## Names -/

section

variable {columns : List Column} {item : Column → Item} {name : Column → String}

/-- A name that no other column has belongs to the item of its column. -/
theorem filter_items (hitem : ∀ c ∈ columns, (item c).exposed? = some (name c))
    (hn : (columns.map name).Nodup) {c : Column} (hc : c ∈ columns) :
    (columns.map item).filter (·.exposed? = some (name c)) = [item c] := by
  induction columns with
  | nil => cases hc
  | cons d columns ih =>
    obtain ⟨hd, hrest⟩ := List.nodup_cons.mp hn
    obtain ⟨hfirst, hitems⟩ := List.forall_mem_cons.mp hitem
    rw [List.map_cons]
    rcases List.mem_cons.mp hc with rfl | hc
    · rw [List.filter_cons_of_pos (by simp [hfirst]), List.filter_eq_nil_iff.mpr]
      intro i hi
      obtain ⟨e, he, rfl⟩ := List.mem_map.mp hi
      have hne : name e ≠ name c := fun h => hd (h ▸ List.mem_map_of_mem he)
      simp [hitems e he, hne]
    · have hne : name d ≠ name c := fun h => hd (h ▸ List.mem_map_of_mem hc)
      rw [List.filter_cons_of_neg (by simp [hfirst, hne]), ih hitems hrest hc]

theorem find?_items (hitem : ∀ c ∈ columns, (item c).exposed? = some (name c))
    (hn : (columns.map name).Nodup) {c : Column} (hc : c ∈ columns) :
    (columns.map item).find? (·.exposed? = some (name c)) = some (item c) := by
  rw [← List.head?_filter, filter_items hitem hn hc, List.head?_cons]

theorem lookup_row (value : Column → Value) (hn : (columns.map name).Nodup) {c : Column}
    (hc : c ∈ columns) : (columns.map fun c => (name c, value c)).lookup (name c) =
      some (value c) := by
  induction columns with
  | nil => cases hc
  | cons d columns ih =>
    obtain ⟨hd, hn⟩ := List.nodup_cons.mp hn
    rw [List.map_cons]
    rcases List.mem_cons.mp hc with rfl | hc
    · exact List.lookup_cons_self
    · have hne : name c ≠ name d := fun h => hd (h ▸ List.mem_map_of_mem hc)
      rw [List.lookup_cons, beq_false_of_ne hne]
      exact ih hn hc

end

/-! ## Reports of dimensions and metrics -/

namespace Report

/-- The report has dimensions and metrics, of which no two have the same name in a stage. -/
structure Lawful (r : Report) (keys : List MetricKey) : Prop where
  dimensions : ∀ c ∈ r.dimensions, IsDimension c
  metrics : r.metrics = keys.map MetricKey.column
  nonempty : r.columns ≠ []
  innerNames : (r.columns.map (·.innerName)).Nodup
  outerNames : (r.columns.map (·.outerName)).Nodup

section

variable {r : Report} {keys : List MetricKey} (h : r.Lawful keys)
include h

theorem Lawful.column {c : Column} (hc : c ∈ r.columns) : LawfulColumn c := by
  rcases List.mem_append.mp hc with hc | hc
  · exact (h.dimensions c hc).lawful
  · rw [h.metrics] at hc
    obtain ⟨key, -, rfl⟩ := List.mem_map.mp hc
    exact key.lawful_column

theorem Lawful.innerStage_exposes {c : Column} (hc : c ∈ r.columns) :
    r.innerStage.exposes c.innerName := by
  rw [Stage.exposes, innerStage,
    filter_items (fun c hc => (h.column hc).inner) h.innerNames hc]
  rfl

theorem Lawful.outerStage_exposes {c : Column} (hc : c ∈ r.columns) :
    r.outerStage.exposes c.outerName := by
  rw [Stage.exposes, outerStage,
    filter_items (fun c hc => (h.column hc).outer) h.outerNames hc]
  rfl

theorem Lawful.innerStage_isValid : r.innerStage.isValid fun _ => true := by
  simp only [Stage.isValid, Bool.and_eq_true, List.all_eq_true, implies_true, and_true]
  refine ⟨fun name hname => ?_, fun item hitem => ?_⟩
  · obtain ⟨c, hc, rfl⟩ := List.mem_map.mp hname
    obtain ⟨hcolumn, hgrouped⟩ := List.mem_filter.mp hc
    refine ⟨h.innerStage_exposes hcolumn, fun item hitem => ?_⟩
    obtain ⟨d, hd, rfl⟩ := List.mem_map.mp hitem
    -- An item of that name is the item of the group itself.
    by_cases hsame : d.innerName = c.innerName
    · obtain rfl := List.inj_on_of_nodup_map h.innerNames hd hcolumn hsame
      simp [← (h.column hd).grouped, hgrouped]
    · simp [(h.column hd).inner, hsame]
  · obtain ⟨d, hd, rfl⟩ := List.mem_map.mp hitem
    cases hgrouped : d.grouped with
    | true =>
      have hname : d.innerName ∈ r.innerGroups :=
        List.mem_map_of_mem (List.mem_filter.mpr ⟨hd, hgrouped⟩)
      have hany : r.innerStage.groups.any (d.inner.exposed? = some ·) :=
        List.any_eq_true.mpr ⟨_, hname, by simp [(h.column hd).inner]⟩
      rw [hany, Bool.or_true]
    | false =>
      have haggregate : d.inner.expr.isAggregate := by
        simpa [hgrouped] using (h.column hd).grouped
      rw [haggregate, Bool.true_or, Bool.true_or]

/-- Dimensions are no aggregates in the outer stage, and metrics are. -/
theorem Lawful.outer_isAggregate {c : Column} (hc : c ∈ r.columns) :
    (c ∈ r.dimensions ∧ c.outer.expr.isAggregate = false) ∨ c.outer.expr.isAggregate := by
  rcases List.mem_append.mp hc with hc | hc
  · obtain ⟨e, name, -, rfl⟩ := h.dimensions c hc
    exact .inl ⟨hc, rfl⟩
  · rw [h.metrics] at hc
    obtain ⟨key, -, rfl⟩ := List.mem_map.mp hc
    exact .inr (by cases key <;> rfl)

theorem Lawful.outerStage_isValid : r.outerStage.isValid r.innerStage.offers := by
  simp only [Stage.isValid, Bool.and_eq_true, List.all_eq_true]
  refine ⟨⟨fun name hname => ?_, fun item hitem => ?_⟩, fun item hitem => ?_⟩
  · obtain ⟨c, hc, rfl⟩ := List.mem_map.mp hname
    have hcolumn : c ∈ r.columns := List.mem_append_left _ hc
    refine ⟨h.outerStage_exposes hcolumn, fun item hitem => ?_⟩
    obtain ⟨d, hd, rfl⟩ := List.mem_map.mp hitem
    by_cases hsame : d.outerName = c.outerName
    · obtain rfl := List.inj_on_of_nodup_map h.outerNames hd hcolumn hsame
      obtain ⟨e, name, -, rfl⟩ := h.dimensions d hc
      simp [Item.bare, Expr.isAggregate]
    · simp [(h.column hd).outer, hsame]
  · obtain ⟨d, hd, rfl⟩ := List.mem_map.mp hitem
    rcases h.outer_isAggregate hd with ⟨hdimension, -⟩ | haggregate
    · have hany : r.outerStage.groups.any (d.outer.exposed? = some ·) :=
        List.any_eq_true.mpr ⟨_, List.mem_map_of_mem hdimension, by simp [(h.column hd).outer]⟩
      rw [hany, Bool.or_true]
    · rw [haggregate, Bool.true_or, Bool.true_or]
  · obtain ⟨d, hd, rfl⟩ := List.mem_map.mp hitem
    rw [(h.column hd).operand]
    exact h.innerStage_exposes hd

/-- The inner stage groups by the columns that are grouped. -/
theorem Lawful.innerStage_key (e : Event) :
    r.innerStage.key Event.read e =
      (r.columns.filter (·.grouped)).map fun c => e.read c.inner.expr := by
  rw [Stage.key, innerStage, innerGroups, List.map_map]
  refine List.map_congr_left fun c hc => ?_
  show ((r.columns.map (·.inner)).find? (·.exposed? = some c.innerName)).bind _ = _
  rw [find?_items (fun c hc => (h.column hc).inner) h.innerNames (List.mem_filter.mp hc).1]
  rfl

/-- The outer stage groups by the dimensions. -/
theorem Lawful.outerStage_key (row : Row) :
    r.outerStage.key Row.read row = r.dimensions.map fun c => row.read (.column c.innerName) := by
  rw [Stage.key, outerStage, outerGroups, List.map_map]
  refine List.map_congr_left fun c hc => ?_
  have hcolumn : c ∈ r.columns := List.mem_append_left _ hc
  show ((r.columns.map (·.outer)).find? (·.exposed? = some c.outerName)).bind _ = _
  rw [find?_items (fun c hc => (h.column hc).outer) h.outerNames hcolumn]
  obtain ⟨e, name, -, rfl⟩ := h.dimensions c hc
  rfl

/-! ### The groups of both stages -/

/-- The row of the inner stage for a group of events. -/
def innerRow (r : Report) (events : List Event) : Row :=
  r.columns.map fun c => (c.innerName, c.inner.expr.overRows Event.read events)

def innerGroupsOf (r : Report) (events : List Event) : List (List Event) :=
  partition (r.innerStage.key Event.read) events

theorem Lawful.innerStage_results {events : List Event} (hne : events ≠ []) :
    r.innerStage.results Event.read events = (r.innerGroupsOf events).map r.innerRow := by
  have hgroups : r.innerStage.groups ≠ [] ∨ r.innerStage.hasAggregate := by
    obtain ⟨c, hc⟩ := List.exists_mem_of_ne_nil _ h.nonempty
    cases hgrouped : c.grouped with
    | true =>
      exact .inl (List.ne_nil_of_mem
        (List.mem_map_of_mem (List.mem_filter.mpr ⟨hc, hgrouped⟩)))
    | false =>
      have haggregate : c.inner.expr.isAggregate := by
        simpa [hgrouped] using (h.column hc).grouped
      exact .inr (List.any_eq_true.mpr ⟨_, List.mem_map_of_mem hc, haggregate⟩)
  rw [Stage.results, Stage.groupsOf_eq_partition Event.read hgroups hne, innerGroupsOf]
  refine List.map_congr_left fun members _ => ?_
  rw [innerRow, innerStage, List.map_map]
  refine List.map_congr_left fun c hc => ?_
  show (c.inner.exposed?.getD "", _) = _
  rw [(h.column hc).inner]
  rfl

/-- The outer stage reads what the inner one has computed. -/
theorem Lawful.read_innerRow {c : Column} (hc : c ∈ r.columns) (events : List Event) :
    Row.read (r.innerRow events) (.column c.innerName) =
      c.inner.expr.overRows Event.read events := by
  rw [Row.read, innerRow, lookup_row _ h.innerNames hc]
  rfl

/-- The events of one group of the inner stage agree in all grouped columns. -/
theorem Lawful.over_group {events : List Event} {x : Event} (hx : x ∈ events) {c : Column}
    (hc : c ∈ r.columns) (hgrouped : c.grouped) :
    c.inner.expr.overRows Event.read (events.filter
      (r.innerStage.key Event.read · = r.innerStage.key Event.read x)) =
        x.read c.inner.expr := by
  have haggregate : c.inner.expr.isAggregate = false := by
    simpa [hgrouped] using (h.column hc).grouped
  refine Expr.overRows_eq_of_forall haggregate ?_ fun y hy => ?_
  · exact List.ne_nil_of_mem (List.mem_filter.mpr ⟨hx, by simp⟩)
  · have hkey := (List.mem_filter.mp hy).2
    rw [decide_eq_true_eq, h.innerStage_key, h.innerStage_key] at hkey
    exact List.map_inj_left.mp hkey c (List.mem_filter.mpr ⟨hc, hgrouped⟩)

/-- The values of the dimensions in a row of the inner stage. -/
def groupCombination (r : Report) (events : List Event) : List Value :=
  r.dimensions.map fun c => c.inner.expr.overRows Event.read events

theorem Lawful.outerStage_key_innerRow (events : List Event) :
    r.outerStage.key Row.read (r.innerRow events) = r.groupCombination events := by
  rw [h.outerStage_key]
  exact List.map_congr_left fun c hc => h.read_innerRow (List.mem_append_left _ hc) events

/-- A group of the inner stage has the combination of its events. -/
theorem Lawful.groupCombination_group {events : List Event} :
    ∀ x ∈ events, r.groupCombination (events.filter
      (r.innerStage.key Event.read · = r.innerStage.key Event.read x)) =
        combination r.dimensions x := by
  intro x hx
  refine List.map_congr_left fun c hc => ?_
  have hgrouped : c.grouped := by
    obtain ⟨e, name, -, rfl⟩ := h.dimensions c hc
    rfl
  exact h.over_group hx (List.mem_append_left _ hc) hgrouped

/-- The groups of the inner stage that have a combination of dimensions. -/
def groupsWith (r : Report) (events : List Event) (values : List Value) : List (List Event) :=
  (r.innerGroupsOf events).filter (r.groupCombination · = values)

theorem Lawful.groupsWith_perm (events : List Event) (values : List Value) :
    (r.groupsWith events values).flatten.Perm
      (events.filter (combination r.dimensions · = values)) :=
  flatten_filter_partition_perm h.groupCombination_group values

theorem Lawful.groupsWith_ne_nil {events : List Event} {values : List Value}
    (hv : values ∈ events.map (combination r.dimensions)) : r.groupsWith events values ≠ [] := by
  obtain ⟨x, hx, rfl⟩ := List.mem_map.mp hv
  exact List.ne_nil_of_mem (List.mem_filter.mpr
    ⟨mem_partition.mpr ⟨x, hx, rfl⟩, decide_eq_true (h.groupCombination_group x hx)⟩)

/-- The outer stage has a row for each combination of dimensions. -/
theorem Lawful.outerStage_results {events : List Event} (hne : events ≠ []) :
    r.outerStage.results Row.read ((r.innerGroupsOf events).map r.innerRow) =
      (events.map (combination r.dimensions)).dedup.map fun values => r.columns.map fun c =>
        (c.outerName,
          c.outer.expr.overRows Row.read ((r.groupsWith events values).map r.innerRow)) := by
  have hgroups : r.outerStage.groups ≠ [] ∨ r.outerStage.hasAggregate := by
    obtain ⟨c, hc⟩ := List.exists_mem_of_ne_nil _ h.nonempty
    rcases h.outer_isAggregate hc with ⟨hdimension, -⟩ | haggregate
    · exact .inl (List.ne_nil_of_mem (List.mem_map_of_mem hdimension))
    · exact .inr (List.any_eq_true.mpr ⟨_, List.mem_map_of_mem hc, haggregate⟩)
  have hrows : (r.innerGroupsOf events).map r.innerRow ≠ [] := by
    simpa [innerGroupsOf] using partition_ne_nil hne
  have hkey : r.outerStage.key Row.read ∘ r.innerRow = r.groupCombination :=
    funext h.outerStage_key_innerRow
  have hcombinations : ((r.innerGroupsOf events).map r.groupCombination).dedup =
      (events.map (combination r.dimensions)).dedup :=
    dedup_map_partition h.groupCombination_group
  rw [Stage.results, Stage.groupsOf_eq_partition Row.read hgroups hrows, partition_map, hkey,
    partition, hcombinations, List.map_map, List.map_map]
  refine List.map_congr_left fun values _ => ?_
  show r.outerStage.items.map _ = _
  rw [outerStage, List.map_map]
  refine List.map_congr_left fun c hc => ?_
  show (c.outer.exposed?.getD "", _) = _
  rw [(h.column hc).outer]
  rfl

/-! ### The rows of the report -/

theorem Lawful.read_groups {c : Column} (hc : c ∈ r.columns) (groups : List (List Event)) :
    (groups.map r.innerRow).map (Row.read · c.outer.expr.operand) =
      groups.map (c.inner.expr.overRows Event.read ·) := by
  rw [(h.column hc).operand, List.map_map]
  exact List.map_congr_left fun events _ => h.read_innerRow hc events

theorem Lawful.dimension_value {events : List Event} {values : List Value}
    (hv : values ∈ events.map (combination r.dimensions)) :
    (r.dimensions.map fun c => (c.outerName,
        c.outer.expr.overRows Row.read ((r.groupsWith events values).map r.innerRow))) =
      List.zipWith (fun c value => (c.outerName, value)) r.dimensions values := by
  obtain ⟨x, hx, rfl⟩ := List.mem_map.mp hv
  rw [combination, List.zipWith_map_right, List.zipWith_self]
  refine List.map_congr_left fun c hc => ?_
  have hcolumn : c ∈ r.columns := List.mem_append_left _ hc
  have houter : c.outer.expr = .column c.innerName := by
    obtain ⟨e, name, -, rfl⟩ := h.dimensions c hc
    rfl
  have haggregate : c.outer.expr.isAggregate = false := by rw [houter]; rfl
  have hne : (r.groupsWith events (combination r.dimensions x)).map r.innerRow ≠ [] := by
    simpa using h.groupsWith_ne_nil hv
  refine congrArg (Prod.mk c.outerName)
    (Expr.overRows_eq_of_forall haggregate hne fun row hrow => ?_)
  obtain ⟨group, hgroup, rfl⟩ := List.mem_map.mp hrow
  have hgroup := of_decide_eq_true (List.mem_filter.mp hgroup).2
  rw [houter, h.read_innerRow hcolumn]
  exact List.map_inj_left.mp hgroup c hc

theorem Lawful.flatten_values_perm (events : List Event) (values : List Value)
    (read : Event → Value) :
    ((r.groupsWith events values).map (List.map read)).flatten.Perm
      ((events.filter (combination r.dimensions · = values)).map read) := by
  rw [← List.map_flatten]
  exact (h.groupsWith_perm events values).map read

/-- The values that the groups of a combination have in a grouped column are those of its events. -/
theorem Lawful.mem_group_values {c : Column} (hc : c ∈ r.columns) (hgrouped : c.grouped)
    (events : List Event) (values : List Value) (v : Value) :
    v ∈ (r.groupsWith events values).map (c.inner.expr.overRows Event.read ·) ↔
      v ∈ (events.filter (combination r.dimensions · = values)).map (·.read c.inner.expr) := by
  simp only [List.mem_map, groupsWith, List.mem_filter, innerGroupsOf, mem_partition,
    decide_eq_true_eq]
  constructor
  · rintro ⟨_, ⟨⟨x, hx, rfl⟩, hvalues⟩, rfl⟩
    exact ⟨x, ⟨hx, h.groupCombination_group x hx ▸ hvalues⟩, (h.over_group hx hc hgrouped).symm⟩
  · rintro ⟨x, ⟨hx, hvalues⟩, rfl⟩
    exact ⟨_, ⟨⟨x, hx, rfl⟩, (h.groupCombination_group x hx).trans hvalues⟩,
      h.over_group hx hc hgrouped⟩

theorem Lawful.metric_value {events : List Event} {values : List Value}
    (hv : values ∈ events.map (combination r.dimensions)) {key : MetricKey} (hkey : key ∈ keys) :
    key.column.outer.expr.overRows Row.read ((r.groupsWith events values).map r.innerRow) =
      key.total (events.filter (combination r.dimensions · = values)) := by
  have hc : key.column ∈ r.columns :=
    List.mem_append_right _ (h.metrics ▸ List.mem_map_of_mem hkey)
  have hread := h.read_groups hc (r.groupsWith events values)
  have hperm := h.flatten_values_perm events values
  have hmem := h.mem_group_values hc
  -- Counts and sums add up over the groups. Sessions and users are told apart by the groups, so
  -- that what matters is which of them occur.
  cases key with
  | events =>
    have hne :
        (r.groupsWith events values).map (List.map (·.read (.column "event_name"))) ≠ [] := by
      simpa using h.groupsWith_ne_nil hv
    calc Value.sum (((r.groupsWith events values).map r.innerRow).map
          (Row.read · (.column "events")))
      _ = Value.sum (((r.groupsWith events values).map
            (List.map (·.read (.column "event_name")))).map Value.count) := by
        refine congrArg Value.sum (hread.trans ?_)
        rw [List.map_map]
        rfl
      _ = Value.count ((events.filter (combination r.dimensions · = values)).map
            (·.read (.column "event_name"))) := by
        rw [Value.sum_counts hne, Value.count_perm (hperm _)]
      _ = _ := by
        simp only [Event.read_name]
        exact count_texts (·.name) _
  | revenue =>
    calc Value.sum (((r.groupsWith events values).map r.innerRow).map
          (Row.read · (.column "revenue")))
      _ = Value.sum (((r.groupsWith events values).map
            (List.map (·.read (.column "ecommerce.purchase_revenue")))).map Value.sum) := by
        refine congrArg Value.sum (hread.trans ?_)
        rw [List.map_map]
        rfl
      _ = Value.sum ((events.filter (combination r.dimensions · = values)).map
            (·.read (.column "ecommerce.purchase_revenue"))) := by
        rw [Value.sum_sums, Value.sum_perm (hperm _)]
      _ = _ := by
        simp only [Event.read_revenue]
        exact sum_numbers (·.revenue) _
  | sessions =>
    calc Value.countDistinct (((r.groupsWith events values).map r.innerRow).map
          (Row.read · (.column "sessions")))
      _ = Value.countDistinct ((events.filter (combination r.dimensions · = values)).map
            (·.read .sessionKey)) :=
        (congrArg Value.countDistinct hread).trans
          (Value.countDistinct_congr (hmem rfl events values))
      _ = _ := by
        simp only [Event.read_session]
        exact countDistinct_texts (·.session) _
  | users =>
    calc Value.countDistinct (((r.groupsWith events values).map r.innerRow).map
          (Row.read · (.column "user_pseudo_id")))
      _ = Value.countDistinct ((events.filter (combination r.dimensions · = values)).map
            (·.read (.column "user_pseudo_id"))) :=
        (congrArg Value.countDistinct hread).trans
          (Value.countDistinct_congr (hmem rfl events values))
      _ = _ := by
        simp only [Event.read_user]
        exact countDistinct_texts (·.user) _

theorem Lawful.evaluate?_eq {events : List Event} (hne : events ≠ []) :
    r.evaluate? events = some (directRows r.dimensions keys events) := by
  rw [evaluate?, Stage.run?, if_pos h.innerStage_isValid, Option.bind_some, Stage.run?,
    if_pos h.outerStage_isValid, h.innerStage_results hne, h.outerStage_results hne, directRows]
  refine congrArg some (List.map_congr_left fun values hvalues => ?_)
  have hv := List.mem_dedup.mp hvalues
  rw [columns, List.map_append, h.dimension_value hv, h.metrics, List.map_map]
  refine congrArg _ (List.map_congr_left fun key hkey => ?_)
  show (key.column.outerName, _) = _
  rw [h.metric_value hv hkey]
  cases key <;> rfl

end

end Report

/-! ## Reports of requests -/

theorem Report.Resolves.lawful {options : CompileOptions} {table : EventTable} {req : Request}
    {r : Report} (h : r.Resolves options table req) (hne : req.dimensions ≠ [] ∨ req.metrics ≠ [])
    (hm : (req.metrics.map (·.apiName)).Nodup)
    (hd : (req.dimensions.map fun d => aliasOf d.apiName).Nodup)
    (hdm : ∀ d ∈ req.dimensions, ∀ key ∈ req.metricKeys,
      aliasOf d.apiName ≠ key.column.innerName ∧ aliasOf d.apiName ≠ key.column.outerName) :
    r.Lawful req.metricKeys := by
  have hprojects := h.projects
  have hkeys : req.metricKeys.Nodup := hprojects.nodup_metricKeys hm
  refine ⟨fun c hc => ?_, hprojects.metrics, ?_, ?_, ?_⟩
  · rw [hprojects.dimensions] at hc
    obtain ⟨d, -, rfl⟩ := List.mem_map.mp hc
    exact d.isDimension_column _
  · refine List.ne_nil_of_length_pos ?_
    rw [hprojects.length_columns]
    rcases hne with hne | hne
    · exact Nat.add_pos_left (List.length_pos_of_ne_nil hne) _
    · exact Nat.add_pos_right _ (List.length_pos_of_ne_nil hne)
  · rw [hprojects.innerNames]
    exact (Request.nodup_names_iff MetricKey.innerName_injective hkeys).mpr
      ⟨hd, fun d hmem key hkey => (hdm d hmem key hkey).1⟩
  · rw [hprojects.outerNames]
    exact (Request.nodup_names_iff MetricKey.outerName_injective hkeys).mpr
      ⟨hd, fun d hmem key hkey => (hdm d hmem key hkey).2⟩

/-- **Two stages compute what one would.** If no two names of a report are the same in a stage, the
stages of its statement give the rows of the direct aggregation, for all events that there may
be. -/
theorem two_stages_eq_direct {options : CompileOptions} {table : EventTable} {req : Request}
    {r : Report} (h : Report.ofRequest options table req = .ok r)
    (hne : req.dimensions ≠ [] ∨ req.metrics ≠ []) (hm : (req.metrics.map (·.apiName)).Nodup)
    (hd : (req.dimensions.map fun d => aliasOf d.apiName).Nodup)
    (hdm : ∀ d ∈ req.dimensions, ∀ key ∈ req.metricKeys,
      aliasOf d.apiName ≠ key.column.innerName ∧ aliasOf d.apiName ≠ key.column.outerName)
    {events : List Event} (hevents : events ≠ []) :
    r.innerStage.WrittenAs r.inner ∧ r.outerStage.WrittenAs r.outer ∧
      r.evaluate? events = some (directRows r.dimensions req.metricKeys events) := by
  have hresolved := Report.resolves_of_ofRequest h
  have hlawful : r.Lawful req.metricKeys := hresolved.lawful hne hm hd hdm
  exact ⟨r.innerStage_writtenAs, r.outerStage_writtenAs, hlawful.evaluate?_eq hevents⟩

/-- Events of two countries, some of which have no user, no session or no revenue. -/
def sampleEvents : List Event :=
  let visit (user session : Option String) (revenue : Option ℚ) (country : String) : Event :=
    ⟨user, session, revenue, some "view",
      fun e => if e = .column "country" then some (.text country) else none⟩
  [visit (some "a") (some "a1") (some (1 / 2)) "NO", visit (some "b") (some "b1") none "NO",
    visit (some "a") none (some 2) "NO", visit none none none "FR"]

/-- All metrics by country. -/
def countryRequest : Request where
  range := .single ⟨2024, 5, 17, by decide⟩
  dimensions := [{ apiName := "country" }]
  metrics := MetricKey.all.map fun key => { apiName := key.name }

theorem two_stages_eq_direct_countries :
    ∃ r, Report.ofRequest { quoting := .escaped } ⟨"my-project", "analytics_1", "events"⟩
        countryRequest = .ok r ∧
      r.evaluate? sampleEvents = some
        [[("country", some (.text "NO")), ("events", some (.number 3)),
            ("revenue", some (.number (5 / 2))), ("sessions", some (.number 2)),
            ("users", some (.number 2))],
          [("country", some (.text "FR")), ("events", some (.number 1)), ("revenue", none),
            ("sessions", some (.number 0)), ("users", some (.number 0))]] := by
  obtain ⟨r, h⟩ : ∃ r, Report.ofRequest { quoting := .escaped }
      ⟨"my-project", "analytics_1", "events"⟩ countryRequest = .ok r := ⟨_, rfl⟩
  have hdimensions : r.dimensions =
      [⟨true, "country", "country", .named (.column "country") "country", .bare "country"⟩] := by
    cases h
    rfl
  have hevents : sampleEvents ≠ [] := List.cons_ne_nil _ _
  obtain ⟨-, -, hrows⟩ :=
    two_stages_eq_direct h (by decide) (by decide) (by decide) (by decide) hevents
  refine ⟨r, h, ?_⟩
  rw [hrows, hdimensions]
  decide +kernel

end EventReport

import EventReport.Proofs.Json.Datum
import EventReport.Proofs.Outcome
import EventReport.Wire.Request
import Mathlib.Logic.Relation

/-! # The order of members and unknown members

A document may hold the members of a record in any order and may hold others among them. `Shape`
says where the records of a request stand: `RecordKind.fields` lists the fields of each kind of
record with what they hold. `Edit` is one change that has no meaning: members of a record change
places, or a member that is no field of the record is put among them, at any depth.

No reader of a request sees such a change (`Keeps`), whatever levels are left to it. So a document
that is changed any number of times is accepted with the same request (`ofText_rearranged`). -/

set_option autoImplicit false

namespace EventReport

open Json

/-! ## Where records stand -/

/-- The kinds of records in the document of a request. -/
inductive RecordKind where
  | request
  | range
  | dimension
  | metric
  | sortKey
  | filter
  | group
  | condition
  | textTest
  | numberTest
  | listTest
  | betweenTest
  deriving DecidableEq, Repr

/-- What stands at a place of a document: a value without records, a record, or a list of records;
a record or a list may also be null where it is optional. -/
inductive Shape where
  | plain
  | record (kind : RecordKind)
  | list (kind : RecordKind)
  deriving DecidableEq, Repr

namespace RecordKind

/-- The fields of a record in order, and what stands in each. -/
def fields : RecordKind → List (String × Shape)
  | request => [("dimensions", .list .dimension), ("metrics", .list .metric),
      ("dateRange", .record .range), ("metricFilter", .record .filter),
      ("dimensionFilter", .record .filter), ("orderBys", .list .sortKey)]
  | range => [("start", .plain), ("end", .plain)]
  | dimension => [("custom", .plain), ("apiName", .plain), ("name", .plain)]
  | metric => [("custom", .plain), ("apiName", .plain), ("name", .plain)]
  | sortKey => [("fieldName", .plain), ("desc", .plain)]
  | filter => [("andGroup", .record .group), ("orGroup", .record .group),
      ("filter", .record .condition)]
  | group => [("expressions", .list .filter)]
  | condition => [("fieldName", .plain), ("custom", .plain), ("stringFilter", .record .textTest),
      ("numericFilter", .record .numberTest), ("inListFilter", .record .listTest),
      ("betweenFilter", .record .betweenTest)]
  | textTest => [("matchType", .plain), ("value", .plain), ("caseSensitive", .plain)]
  | numberTest => [("operation", .plain), ("value", .plain)]
  | listTest => [("values", .plain), ("caseSensitive", .plain)]
  | betweenTest => [("fromValue", .plain), ("toValue", .plain)]

end RecordKind

/-- What stands in the member with a key, among fields. -/
def shapeOf (fields : List (String × Shape)) (key : String) : Shape :=
  (fields.lookup key).getD .plain

/-- What stands at a place in a record that is given as an array. -/
def shapeAt (fields : List (String × Shape)) (i : Nat) : Shape :=
  (fields[i]?.map (·.2)).getD .plain

/-- One change of a document without a meaning. The members of a record change places, a member
that is no field of the record is put among them, or there is such a change further down. -/
inductive Edit : Shape → Datum → Datum → Prop
  | permute {kind : RecordKind} {ms ms' : List (Option String × Datum)} : ms.Perm ms' →
      Edit (.record kind) (.object ms) (.object ms')
  | insert {kind : RecordKind} {key : String} (before after : List (Option String × Datum))
      (v : Datum) : key ∉ kind.fields.map (·.1) →
      Edit (.record kind) (.object (before ++ after)) (.object (before ++ (some key, v) :: after))
  | member {kind : RecordKind} {key : String} (before after : List (Option String × Datum))
      {v v' : Datum} : Edit (shapeOf kind.fields key) v v' →
      Edit (.record kind) (.object (before ++ (some key, v) :: after))
        (.object (before ++ (some key, v') :: after))
  | field {kind : RecordKind} (before after : List Datum) {v v' : Datum} :
      Edit (shapeAt kind.fields before.length) v v' →
      Edit (.record kind) (.array (before ++ v :: after)) (.array (before ++ v' :: after))
  | item {kind : RecordKind} (before after : List Datum) {v v' : Datum} :
      Edit (.record kind) v v' →
      Edit (.list kind) (.array (before ++ v :: after)) (.array (before ++ v' :: after))

/-- Any number of changes without a meaning. -/
def Rearranged (shape : Shape) : Datum → Datum → Prop :=
  Relation.ReflTransGen (Edit shape)

/-! ## Members in any order -/

namespace Json

variable {α : Type}

namespace Layout

variable {layout : Layout α}

theorem Draft.set_self (draft : layout.Draft) (f : layout.Field) (value : layout.Value f) :
    draft.set f value f = some value := by
  unfold Draft.set
  split
  · rfl
  · exact absurd rfl ‹_›

theorem Draft.set_of_ne (draft : layout.Draft) {f g : layout.Field} (value : layout.Value f)
    (h : f ≠ g) : draft.set f value g = draft g := by
  unfold Draft.set
  split
  · exact absurd ‹_› h
  · rfl

theorem Draft.set_comm (draft : layout.Draft) {f g : layout.Field} (x : layout.Value f)
    (y : layout.Value g) (h : f ≠ g) : (draft.set f x).set g y = (draft.set g y).set f x := by
  funext e
  rcases layout.decEq f e with hf | rfl
  · rcases layout.decEq g e with hg | rfl
    · rw [set_of_ne _ _ hg, set_of_ne _ _ hf, set_of_ne _ _ hf, set_of_ne _ _ hg]
    · rw [set_self, set_of_ne _ _ hf, set_self]
  · rw [set_of_ne _ _ h.symm, set_self, set_self]

/-- A member is taken into a draft: it is passed over, or it is a field that is not read yet. -/
inductive Takes (layout : Layout α) (draft : layout.Draft) :
    Option String × Node → layout.Draft → Prop
  | unknown {key : String} {node : Node} : layout.field? key = none → node.skip = .ok () →
      Takes layout draft (some key, node) draft
  | known {key : String} {node : Node} {f : layout.Field} {value : layout.Value f} :
      layout.field? key = some f → draft f = none → layout.reader f node = .ok value →
      Takes layout draft (some key, node) (draft.set f value)

/-- Members are taken into a draft in order. -/
inductive TakesAll (layout : Layout α) :
    layout.Draft → List (Option String × Node) → layout.Draft → Prop
  | nil (draft : layout.Draft) : TakesAll layout draft [] draft
  | cons {draft next last : layout.Draft} {m : Option String × Node}
      {ms : List (Option String × Node)} : Takes layout draft m next →
      TakesAll layout next ms last → TakesAll layout draft (m :: ms) last

theorem readMembers_eq_ok {last : layout.Draft} :
    ∀ {draft : layout.Draft} {ms : List (Option String × Node)},
      layout.readMembers draft ms = .ok last ↔ TakesAll layout draft ms last
  | draft, [] => by
    rw [readMembers, pure_eq_ok]
    constructor
    · rintro rfl
      exact .nil draft
    · rintro ⟨⟩
      rfl
  | draft, (none, node) :: ms => by
    rw [readMembers]
    constructor
    · nofun
    · rintro (_ | ⟨htakes, -⟩)
      cases htakes
  | draft, (some key, node) :: ms => by
    rw [readMembers]
    constructor
    · intro h
      split at h
      · obtain ⟨⟨⟩, hskip, hms⟩ := bind_eq_ok.mp h
        exact .cons (.unknown ‹_› hskip) (readMembers_eq_ok.mp hms)
      · split at h
        · cases h
        · obtain ⟨value, hread, hms⟩ := bind_eq_ok.mp h
          have hfirst := Option.not_isSome_iff_eq_none.mp ‹_›
          exact .cons (.known ‹_› hfirst hread) (readMembers_eq_ok.mp hms)
    · rintro (_ | ⟨htakes, hms⟩)
      cases htakes with
      | unknown hfield hskip =>
        rw [hfield]
        exact bind_eq_ok.mpr ⟨(), hskip, readMembers_eq_ok.mpr hms⟩
      | known hfield hfirst hread =>
        rw [hfield]
        simp only [hfirst, Option.isSome_none, Bool.false_eq_true, if_false]
        exact bind_eq_ok.mpr ⟨_, hread, readMembers_eq_ok.mpr hms⟩

theorem takesAll_append {last : layout.Draft} {ms' : List (Option String × Node)} :
    ∀ {ms : List (Option String × Node)} {draft : layout.Draft},
      TakesAll layout draft (ms ++ ms') last ↔
        ∃ next, TakesAll layout draft ms next ∧ TakesAll layout next ms' last
  | [], draft => by
    constructor
    · exact fun h => ⟨draft, .nil draft, h⟩
    · rintro ⟨_, ⟨⟩, h⟩
      exact h
  | m :: ms, draft => by
    constructor
    · rintro (_ | ⟨hm, hms⟩)
      obtain ⟨next, hms, hms'⟩ := takesAll_append.mp hms
      exact ⟨next, .cons hm hms, hms'⟩
    · rintro ⟨next, _ | ⟨hm, hms⟩, hms'⟩
      exact .cons hm (takesAll_append.mpr ⟨next, hms, hms'⟩)

/-- Two members are taken in either order: no field is taken twice, so they are different fields
unless one is passed over. -/
theorem Takes.swap {draft next last : layout.Draft} {m m' : Option String × Node}
    (h : Takes layout draft m next) (h' : Takes layout next m' last) :
    ∃ other, Takes layout draft m' other ∧ Takes layout other m last := by
  cases h with
  | unknown hfield hskip => exact ⟨last, h', .unknown hfield hskip⟩
  | @known key node f x hfield hfirst hread =>
    cases h' with
    | unknown hfield' hskip' => exact ⟨draft, .unknown hfield' hskip', .known hfield hfirst hread⟩
    | @known key' node' g y hfield' hfirst' hread' =>
      have hne : f ≠ g := by
        rintro rfl
        rw [Draft.set_self] at hfirst'
        cases hfirst'
      rw [Draft.set_of_ne _ _ hne] at hfirst'
      have hfirst : draft.set g y f = none := by rwa [Draft.set_of_ne _ _ hne.symm]
      rw [Draft.set_comm _ _ _ hne]
      exact ⟨_, .known hfield' hfirst' hread', .known hfield hfirst hread⟩

/-- **Members are taken in any order with the same draft.** -/
theorem TakesAll.perm {ms ms' : List (Option String × Node)} (hperm : ms.Perm ms') :
    ∀ {draft last : layout.Draft}, TakesAll layout draft ms last →
      TakesAll layout draft ms' last := by
  induction hperm with
  | nil => exact fun h => h
  | cons m _ ih =>
    rintro draft last (_ | ⟨hm, hms⟩)
    exact .cons hm (ih hms)
  | swap m m' ms =>
    rintro draft last (_ | ⟨hm, _ | ⟨hm', hms⟩⟩)
    obtain ⟨other, hm', hm⟩ := hm.swap hm'
    exact .cons hm' (.cons hm hms)
  | trans _ _ ih ih' => exact fun h => ih' (ih h)

end Layout

end Json

/-! ## Readers that do not see a change -/

section Keeps

variable {α : Type} {kind : RecordKind}

/-- What the reader makes of a value stands if the value is changed without a meaning. -/
def Keeps (shape : Shape) (reader : Reader α) : Prop :=
  ∀ ⦃v v' : Datum⦄, Edit shape v v' → ∀ ⦃a : α⦄, reader v.node = .ok a → reader v'.node = .ok a

/-- There is nothing to change in a value without records. -/
theorem keeps_plain (reader : Reader α) : Keeps .plain reader := nofun

theorem Edit.node_ne_null {shape : Shape} {v v' : Datum} (h : Edit shape v v') :
    v.node ≠ .null ∧ v'.node ≠ .null := by
  cases h <;> exact ⟨by rw [Datum.node]; nofun, by rw [Datum.node]; nofun⟩

theorem readOptional_of_ne_null {reader : Reader α} {node : Node} (h : node ≠ .null) :
    readOptional reader node = some <$> reader node := by
  cases node with
  | null => exact absurd rfl h
  | _ => rfl

theorem Keeps.optional {shape : Shape} {reader : Reader α} (h : Keeps shape reader) :
    Keeps shape (readOptional reader) := by
  intro v v' hedit a hread
  obtain ⟨hnull, hnull'⟩ := hedit.node_ne_null
  rw [readOptional_of_ne_null hnull, map_eq_ok] at hread
  obtain ⟨x, hread, rfl⟩ := hread
  rw [readOptional_of_ne_null hnull', map_eq_ok]
  exact ⟨x, h hedit hread, rfl⟩

/-- An item of an array is read as it was, and so is the array. -/
theorem Keeps.each {reader : Reader α} (h : Keeps (.record kind) reader) :
    Keeps (.list kind) (readEach reader) := by
  rintro _ _ (_ | _ | _ | _ | ⟨before, after, hedit⟩) as hread
  rw [Datum.node, Datum.itemNodes_eq_map, readEach] at hread ⊢
  obtain ⟨values, hvalues, hread⟩ := bind_eq_ok.mp hread
  refine bind_eq_ok.mpr ⟨values, ?_, hread⟩
  rw [List.map_append, List.map_cons, List.mapM_append, List.mapM_cons] at hvalues ⊢
  obtain ⟨first, hfirst, hvalues⟩ := bind_eq_ok.mp hvalues
  obtain ⟨rest, hrest, hvalues⟩ := bind_eq_ok.mp hvalues
  obtain ⟨a, ha, hrest⟩ := bind_eq_ok.mp hrest
  exact bind_eq_ok.mpr ⟨first, hfirst, bind_eq_ok.mpr ⟨rest, bind_eq_ok.mpr ⟨a, h hedit ha, hrest⟩,
    hvalues⟩⟩

theorem keeps_readTooDeep (name : String) :
    Keeps (.record kind) (readTooDeep name : Reader α) := by
  rintro _ _ (_ | _ | _ | _) a hread
  all_goals
    rw [Datum.node] at hread
    cases hread

theorem keeps_readTooDeepList : Keeps (.list kind) (readTooDeepList : Reader (List α)) := by
  rintro _ _ (_ | _ | _ | _ | _) a hread
  rw [Datum.node] at hread
  cases hread

end Keeps

/-! ## Records -/

section Records

variable {α : Type} {kind : RecordKind} {layout : Layout α}

/-- Fields with their labels, whose readers do not see a change of what stands in them. -/
def Fits (layout : Layout α) : List layout.Field → List (String × Shape) → Prop :=
  List.Forall₂ fun f entry => layout.label f = entry.1 ∧ Keeps entry.2 (layout.reader f)

theorem Fits.find?_eq_none {fields : List layout.Field} {entries : List (String × Shape)}
    {key : String} (h : Fits layout fields entries) (hkey : key ∉ entries.map (·.1)) :
    fields.find? (fun f => layout.label f = key) = none := by
  induction h with
  | nil => rfl
  | cons hf _ ih =>
    simp only [List.map_cons, List.mem_cons, not_or] at hkey
    rw [List.find?_cons_of_neg (by simpa [hf.1] using Ne.symm hkey.1), ih hkey.2]

theorem Fits.keeps_of_find? {fields : List layout.Field} {entries : List (String × Shape)}
    {key : String} {f : layout.Field} (h : Fits layout fields entries)
    (hfind : fields.find? (fun f => layout.label f = key) = some f) :
    Keeps (shapeOf entries key) (layout.reader f) := by
  induction h with
  | nil => cases hfind
  | @cons g entry _ _ hg _ ih =>
    obtain ⟨label, shape⟩ := entry
    obtain ⟨rfl, hkeeps⟩ := hg
    by_cases hkey : layout.label g = key
    · rw [List.find?_cons_of_pos (by simpa using hkey), Option.some.injEq] at hfind
      obtain rfl := hfind
      rw [shapeOf, List.lookup_cons, hkey, beq_self_eq_true]
      exact hkeeps
    · rw [List.find?_cons_of_neg (by simpa using hkey)] at hfind
      rw [shapeOf, List.lookup_cons, beq_false_of_ne (Ne.symm hkey)]
      exact ih hfind

/-- The items of a record in the form of an array, one of which is changed. -/
theorem Fits.readItems {v v' : Datum} {stop : Option Stop} {after : List Node} :
    ∀ {fields : List layout.Field} {entries : List (String × Shape)} {before : List Datum}
      {draft last : layout.Draft}, Fits layout fields entries →
      Edit (shapeAt entries before.length) v v' →
      layout.readItems draft stop fields (before.map Datum.node ++ v.node :: after) = .ok last →
      layout.readItems draft stop fields (before.map Datum.node ++ v'.node :: after) = .ok last
  | [], _, [], _, _, _, _, hread => nomatch hread
  | [], _, _ :: _, _, _, _, _, hread => nomatch hread
  | f :: fields, _, [], draft, last, .cons hf _, hedit, hread => by
    obtain ⟨value, hvalue, hread⟩ := bind_eq_ok.mp hread
    exact bind_eq_ok.mpr ⟨value, hf.2 hedit hvalue, hread⟩
  | f :: fields, _, b :: before, draft, last, .cons _ hfields, hedit, hread => by
    obtain ⟨value, hvalue, hread⟩ := bind_eq_ok.mp hread
    refine bind_eq_ok.mpr ⟨value, hvalue, Fits.readItems hfields ?_ hread⟩
    simpa [shapeAt] using hedit

/-- The members of a record that is changed are taken into the same draft. -/
theorem Fits.takesAll (h : Fits layout layout.fields kind.fields)
    {members members' : List (Option String × Datum)} {draft last : layout.Draft}
    (hedit : Edit (.record kind) (.object members) (.object members'))
    (htakes : layout.TakesAll draft (Datum.memberNodes members) last) :
    layout.TakesAll draft (Datum.memberNodes members') last := by
  rw [Datum.memberNodes_eq_map] at htakes ⊢
  cases hedit with
  | permute hperm => exact htakes.perm (hperm.map _)
  | insert before after w hkey =>
    rw [List.map_append] at htakes
    rw [List.map_append, List.map_cons]
    obtain ⟨next, hbefore, hafter⟩ := Layout.takesAll_append.mp htakes
    exact Layout.takesAll_append.mpr
      ⟨next, hbefore, .cons (.unknown (h.find?_eq_none hkey) (w.skip_node)) hafter⟩
  | member before after hedit =>
    rw [List.map_append, List.map_cons] at htakes ⊢
    obtain ⟨next, hbefore, _ | ⟨hm, hafter⟩⟩ := Layout.takesAll_append.mp htakes
    refine Layout.takesAll_append.mpr ⟨next, hbefore, .cons ?_ hafter⟩
    cases hm with
    | unknown hfield _ => exact .unknown hfield (Datum.skip_node _)
    | known hfield hfirst hread =>
      exact .known hfield hfirst (h.keeps_of_find? hfield hedit hread)

/-- **A record is read as it was.** -/
theorem Fits.keeps (h : Fits layout layout.fields kind.fields) :
    Keeps (.record kind) layout.read := by
  intro v v' hedit a hread
  cases v with
  | object members =>
    obtain ⟨members', rfl⟩ : ∃ members', v' = .object members' := by
      cases hedit <;> exact ⟨_, rfl⟩
    rw [Datum.node] at hread ⊢
    obtain ⟨draft, hmembers, hbuild⟩ := bind_eq_ok.mp hread
    refine bind_eq_ok.mpr ⟨draft, ?_, hbuild⟩
    rw [Layout.readMembers_eq_ok] at hmembers ⊢
    exact h.takesAll hedit hmembers
  | array items =>
    cases hedit with
    | field before after hedit =>
      rw [Datum.node, Datum.itemNodes_eq_map, List.map_append, List.map_cons] at hread ⊢
      obtain ⟨draft, hitems, hbuild⟩ := bind_eq_ok.mp hread
      exact bind_eq_ok.mpr ⟨draft, h.readItems hedit hitems, hbuild⟩
  | _ => nomatch hedit

theorem keeps_readRecord {name : String} {layout : Nat → Layout α}
    (h : ∀ depth, Fits (layout depth) (layout depth).fields kind.fields) :
    ∀ depth, Keeps (.record kind) (readRecord name layout depth)
  | 0 => keeps_readTooDeep name
  | depth + 1 => (h depth).keeps

theorem keeps_readList {item : Nat → Reader α} (h : ∀ depth, Keeps (.record kind) (item depth)) :
    ∀ depth, Keeps (.list kind) (readList item depth)
  | 0 => keeps_readTooDeepList
  | depth + 1 => Keeps.each (h depth)

end Records

/-! ## The readers of a request -/

/-- Fields that hold no records need only have their labels. -/
theorem fits_of_plain {α : Type} {layout : Layout α} :
    ∀ {fields : List layout.Field} {entries : List (String × Shape)},
      fields.map layout.label = entries.map (·.1) → (∀ e ∈ entries, e.2 = .plain) →
      Fits layout fields entries
  | [], [], _, _ => .nil
  | [], _ :: _, hlabels, _ => nomatch hlabels
  | _ :: _, [], hlabels, _ => nomatch hlabels
  | f :: fields, e :: entries, hlabels, hplain => by
    obtain ⟨hlabel, hlabels⟩ := List.cons.inj hlabels
    obtain ⟨he, hplain⟩ := List.forall_mem_cons.mp hplain
    refine .cons ⟨hlabel, ?_⟩ (fits_of_plain hlabels hplain)
    rw [he]
    exact keeps_plain _

theorem Dimension.keeps_read (depth : Nat) : Keeps (.record .dimension) (Dimension.read depth) := by
  refine keeps_readRecord (fun _ => ?_) depth
  exact fits_of_plain rfl (by decide)

theorem Metric.keeps_read (depth : Nat) : Keeps (.record .metric) (Metric.read depth) := by
  refine keeps_readRecord (fun _ => ?_) depth
  exact fits_of_plain rfl (by decide)

theorem SortKey.keeps_read (depth : Nat) : Keeps (.record .sortKey) (SortKey.read depth) := by
  refine keeps_readRecord (fun _ => ?_) depth
  exact fits_of_plain rfl (by decide)

theorem TextTest.keeps_read (depth : Nat) : Keeps (.record .textTest) (TextTest.read depth) := by
  refine keeps_readRecord (fun _ => ?_) depth
  exact fits_of_plain rfl (by decide)

theorem NumberTest.keeps_read (depth : Nat) :
    Keeps (.record .numberTest) (NumberTest.read depth) := by
  refine keeps_readRecord (fun _ => ?_) depth
  exact fits_of_plain rfl (by decide)

theorem ListTest.keeps_read (depth : Nat) : Keeps (.record .listTest) (ListTest.read depth) := by
  refine keeps_readRecord (fun _ => ?_) depth
  exact fits_of_plain rfl (by decide)

theorem BetweenTest.keeps_read (depth : Nat) :
    Keeps (.record .betweenTest) (BetweenTest.read depth) := by
  refine keeps_readRecord (fun _ => ?_) depth
  exact fits_of_plain rfl (by decide)

theorem RangeRecord.keeps_read (depth : Nat) :
    Keeps (.record .range) (readRecord "RawDateRange" (fun _ => rangeLayout) depth) := by
  refine keeps_readRecord (fun _ => ?_) depth
  exact fits_of_plain rfl (by decide)

theorem ConditionNode.keeps_read (depth : Nat) :
    Keeps (.record .condition) (readRecord "RawFilter" conditionLayout depth) := by
  refine keeps_readRecord (fun depth => ?_) depth
  have htext := Keeps.optional (TextTest.keeps_read depth)
  have hnumber := Keeps.optional (NumberTest.keeps_read depth)
  have hlist := Keeps.optional (ListTest.keeps_read depth)
  have hbetween := Keeps.optional (BetweenTest.keeps_read depth)
  exact .cons ⟨rfl, keeps_plain _⟩ (.cons ⟨rfl, keeps_plain _⟩ (.cons ⟨rfl, htext⟩
    (.cons ⟨rfl, hnumber⟩ (.cons ⟨rfl, hlist⟩ (.cons ⟨rfl, hbetween⟩ .nil)))))

namespace FilterNode

mutual

theorem keeps_read : ∀ depth, Keeps (.record .filter) (read depth)
  | 0 => keeps_readTooDeep _
  | depth + 1 => by
    have hgroup := Keeps.optional (keeps_readGroup depth)
    have hcondition := Keeps.optional (ConditionNode.keeps_read depth)
    rw [read]
    refine Fits.keeps ?_
    exact .cons ⟨rfl, hgroup⟩ (.cons ⟨rfl, hgroup⟩ (.cons ⟨rfl, hcondition⟩ .nil))

theorem keeps_readGroup : ∀ depth, Keeps (.record .group) (readGroup depth)
  | 0 => keeps_readTooDeep _
  | depth + 1 => by
    have hmembers := keeps_readMembers depth
    rw [readGroup]
    refine Fits.keeps ?_
    exact .cons ⟨rfl, hmembers⟩ .nil

theorem keeps_readMembers : ∀ depth, Keeps (.list .filter) (readMembers depth)
  | 0 => keeps_readTooDeepList
  | depth + 1 => by
    rw [readMembers]
    exact Keeps.each (keeps_read depth)

end

end FilterNode

theorem RequestRecord.keeps_read (depth : Nat) :
    Keeps (.record .request) (RequestRecord.read depth) := by
  refine keeps_readRecord (fun depth => ?_) depth
  have hdimensions := keeps_readList Dimension.keeps_read depth
  have hmetrics := keeps_readList Metric.keeps_read depth
  have hrange := RangeRecord.keeps_read depth
  have hfilter := Keeps.optional (FilterNode.keeps_read depth)
  have horder := Keeps.optional (keeps_readList SortKey.keeps_read depth)
  exact .cons ⟨rfl, hdimensions⟩ (.cons ⟨rfl, hmetrics⟩ (.cons ⟨rfl, hrange⟩
    (.cons ⟨rfl, hfilter⟩ (.cons ⟨rfl, hfilter⟩ (.cons ⟨rfl, horder⟩ .nil)))))

/-! ## Documents -/

/-- What a reader that keeps single changes makes of a value stands after any number of them. -/
theorem Keeps.rearranged {α : Type} {shape : Shape} {reader : Reader α} (h : Keeps shape reader)
    {v v' : Datum} (hrearranged : Rearranged shape v v') {a : α} (hread : reader v.node = .ok a) :
    reader v'.node = .ok a := by
  induction hrearranged with
  | refl => exact hread
  | tail _ hedit ih => exact h hedit ih

theorem Request.ofText_of_writtenAs {v : Datum} {text : String} (h : v.WrittenAs text)
    (r : Request) : Request.ofText text = .ok r ↔
      ∃ record, RequestRecord.read depthLimit v.node = .ok record ∧ record.toRequest = .ok r := by
  rw [Request.ofText, Datum.decode_of_writtenAs _ h]
  cases RequestRecord.read depthLimit v.node with
  | error e => exact ⟨nofun, fun ⟨_, h, _⟩ => nomatch h⟩
  | ok record => exact ⟨fun h => ⟨record, rfl, h⟩, fun ⟨_, hrecord, h⟩ => by cases hrecord; exact h⟩

/-- **The members of records can stand in any order, and unknown ones among them.** A document that
is accepted stays so with the same request, whatever text it is given. -/
theorem ofText_rearranged {v v' : Datum} (h : Rearranged (.record .request) v v') {text : String}
    (htext : v.WrittenAs text) {r : Request} (hread : Request.ofText text = .ok r) :
    (∃ text', v'.WrittenAs text') ∧
      ∀ text', v'.WrittenAs text' → Request.ofText text' = .ok r := by
  obtain ⟨record, hrecord, hrequest⟩ := (Request.ofText_of_writtenAs htext r).mp hread
  have hrecord' := Keeps.rearranged (RequestRecord.keeps_read depthLimit) h hrecord
  exact ⟨v'.exists_writtenAs, fun text' htext' =>
    (Request.ofText_of_writtenAs htext' r).mpr ⟨record, hrecord', hrequest⟩⟩

/-- A request for one metric over a month. -/
def monthDocument : Datum :=
  .object [
    (some "metrics", .array [.object [(some "apiName", .text (some "events"))]]),
    (some "dateRange", .object [
      (some "start", .text (some "2024-01-01")), (some "end", .text (some "2024-01-31"))])]

/-- The document with its members in another order, and with values that cannot be read in a member
that is no field of a metric: a number out of bounds and half of a surrogate pair. -/
def rearrangedMonthDocument : Datum :=
  .object [
    (some "dateRange", .object [
      (some "end", .text (some "2024-01-31")), (some "start", .text (some "2024-01-01"))]),
    (some "metrics", .array [.object [
      (some "unit", .array [.null, .number ⟨false, ['1'], none, some (false, ['9', '9', '9'])⟩
        (by decide), .object [(none, .text none)]]),
      (some "apiName", .text (some "events"))]])]

theorem rearranged_month :
    Rearranged (.record .request) monthDocument rearrangedMonthDocument := by
  refine .head (.permute (List.Perm.swap _ _ _)) ?_
  refine .head (.member [] _ (.permute (List.Perm.swap _ _ _))) ?_
  refine .head (.member [_] [] (.item [] [] (.insert [] _ _ ?_))) .refl
  decide

theorem ofText_rearranged_month : ∃ text r, monthDocument.WrittenAs text ∧
    Request.ofText text = .ok r ∧ ∃ text', rearrangedMonthDocument.WrittenAs text' ∧
      Request.ofText text' = .ok r := by
  obtain ⟨text, htext⟩ := monthDocument.exists_writtenAs
  have hrecord : RequestRecord.read depthLimit monthDocument.node =
      .ok ⟨[], [⟨false, "events", ""⟩], ⟨"2024-01-01", "2024-01-31"⟩, none, none, none⟩ := rfl
  obtain ⟨r, hr⟩ : ∃ r, (⟨[], [⟨false, "events", ""⟩], ⟨"2024-01-01", "2024-01-31"⟩, none, none,
      none⟩ : RequestRecord).toRequest = .ok r := by
    exact ⟨_, rfl⟩
  have hread := (Request.ofText_of_writtenAs htext r).mpr ⟨_, hrecord, hr⟩
  obtain ⟨⟨text', htext'⟩, hsame⟩ := ofText_rearranged rearranged_month htext hread
  exact ⟨text, r, htext, hread, text', htext', hsame text' htext'⟩

end EventReport

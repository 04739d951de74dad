import EventReport.Proofs.Report.Agreement
import EventReport.Proofs.Report.Names

/-! # Aliases and the names behind them

An alias gives its name away if no underscore of the name stands beside an underscore or a dot: such
names have different aliases (`aliasOf_eq_aliasOf_iff`). And an alias is accepted exactly if the
name is, so that a dimension is accepted or refused by the check of its alias alone, and a key that
is accepted needs no escaping (`alias_accepted_iff`). -/

set_option autoImplicit false

namespace EventReport

open Sql

/-! ## Ordinary names -/

/-- No underscore of the name stands beside an underscore or a dot. -/
structure IsOrdinaryName (name : String) : Prop where
  noPair : ¬ ['_', '_'] <:+: name.toList
  notBeforeDot : ¬ ['_', '.'] <:+: name.toList
  notAfterDot : ¬ ['.', '_'] <:+: name.toList

theorem IsOrdinaryName.hasLoneUnderscores {name : String} (h : IsOrdinaryName name) :
    HasLoneUnderscores name.toList := by
  apply List.isChain_iff_forall_rel_of_append_cons_cons.mpr
  rintro a b before after hname ⟨rfl, hb⟩
  have hinfix : ['_', b] <:+: name.toList := ⟨before, after, by simp [hname]⟩
  rcases hb with rfl | rfl
  · exact h.noPair hinfix
  · exact h.notBeforeDot hinfix

/-- **Ordinary names have different aliases**, wherever they have dots and however many. -/
theorem aliasOf_eq_aliasOf_iff {a b : String} (ha : IsOrdinaryName a) (hb : IsOrdinaryName b) :
    aliasOf a = aliasOf b ↔ a = b := by
  constructor
  · intro h
    exact aliasOf_inj ha.hasLoneUnderscores hb.hasLoneUnderscores h
  · intro h
    rw [h]

theorem aliasOf_eq_aliasOf_iff_dots :
    IsOrdinaryName "..geo_city." ∧ IsOrdinaryName "..geo.city_" ∧
      (aliasOf "..geo_city." = aliasOf "..geo.city_" ↔ "..geo_city." = "..geo.city_") ∧
      aliasOf "..geo_city." ≠ aliasOf "..geo.city_" := by
  have ha : IsOrdinaryName "..geo_city." := ⟨by decide, by decide, by decide⟩
  have hb : IsOrdinaryName "..geo.city_" := ⟨by decide, by decide, by decide⟩
  have hiff := aliasOf_eq_aliasOf_iff ha hb
  exact ⟨ha, hb, hiff, fun h => absurd (hiff.mp h) (by decide)⟩

-- Three underscores can be read with the dot first or with the dot last.
example : aliasOf "_." = aliasOf "._" := by decide

/-! ## Checks of an alias -/

theorem exists_identifier_iff (q : Quoting) (name : String) :
    (∃ shown, q.identifier name = .ok shown) ↔ (q = .escaped → IsPlainName ['_', '.'] name) :=
  (stopsAtFirst_identifier q name).exists_ok_iff.trans nameFaults_eq_nil

theorem exists_identifier_aliasOf_iff (q : Quoting) (name : String) :
    (∃ shown, q.identifier (aliasOf name) = .ok shown) ↔
      (q = .escaped → IsPlainName ['_', '.'] name) :=
  (stopsAtFirst_alias q name).exists_ok_iff.trans nameFaults_eq_nil

/-- What a dimension computes is never refused if its alias is accepted. -/
theorem dimensionExpr_of_identifier {q : Quoting} {d : Dimension} {shown : String}
    (h : q.identifier (aliasOf d.apiName) = .ok shown) :
    dimensionExpr q d.custom d.apiName = .ok (d.expr q) := by
  obtain ⟨e, he⟩ := (stopsAtFirst_dimensionExpr d.custom h).exists_ok_iff.mpr rfl
  rw [he, dimensionExpr_eq_ok he]

/-- A dimension has its column if its alias is accepted, and else the error of that check. -/
theorem dimensionColumn_eq (q : Quoting) (d : Dimension) :
    dimensionColumn q d.custom d.apiName =
      (fun _ => d.column q) <$> q.identifier (aliasOf d.apiName) := by
  rw [dimensionColumn]
  cases h : q.identifier (aliasOf d.apiName) with
  | error e => rfl
  | ok shown =>
    rw [dimensionExpr_of_identifier h, Quoting.identifier_eq h]
    rfl

/-- **An alias is accepted exactly if the name is.** So of a dimension whose alias is accepted the
name is not refused, and its key needs no escaping; a dimension is refused by the check of its alias
alone, and a key to order by exactly if its name would be. -/
theorem alias_accepted_iff :
    (∀ name, (∃ shown, Quoting.escaped.identifier (aliasOf name) = .ok shown) ↔
        ∃ shown, Quoting.escaped.identifier name = .ok shown) ∧
      (∀ (q : Quoting) (d : Dimension) (shown : String) (e : ReportError),
        q.identifier (aliasOf d.apiName) = .ok shown →
          dimensionExpr q d.custom d.apiName ≠ .error e) ∧
      (∀ (q : Quoting) (d : Dimension), dimensionColumn q d.custom d.apiName =
        (fun _ => d.column q) <$> q.identifier (aliasOf d.apiName)) ∧
      (∀ (d : Dimension) (c : Column), dimensionColumn .escaped d.custom d.apiName = .ok c →
        Quoting.escaped.literal d.apiName = Quoting.verbatim.literal d.apiName) ∧
      (∀ (q : Quoting) (k : SortKey), (∃ term, k.resolve q = .ok term) ↔
        ∃ shown, q.identifier k.field = .ok shown) := by
  refine ⟨fun name => ?_, fun q d shown e h => ?_, dimensionColumn_eq, fun d c h => ?_,
    fun q k => ?_⟩
  · rw [exists_identifier_aliasOf_iff, exists_identifier_iff]
  · rw [dimensionExpr_of_identifier h]
    exact nofun
  · rw [dimensionColumn_eq] at h
    obtain ⟨shown, hshown, -⟩ := map_eq_ok.mp h
    have hplain := (exists_identifier_aliasOf_iff .escaped d.apiName).mp ⟨shown, hshown⟩ rfl
    exact (literal_agree (avoids_of_isPlainName hplain)).symm
  · rw [exists_identifier_iff, ← nameFaults_eq_nil]
    exact (k.stopsAtFirst q).exists_ok_iff

/-- The key of a parameter whose alias is accepted. -/
theorem alias_accepted_iff_key :
    (∃ c, dimensionColumn .escaped true "utm.source" = .ok c) ∧
      dimensionExpr .escaped true "utm.source" ≠ .error (.invalidIdentifier "utm.source") ∧
      Quoting.escaped.literal "utm.source" = Quoting.verbatim.literal "utm.source" := by
  obtain ⟨-, hexpr, -, hkey, -⟩ := alias_accepted_iff
  obtain ⟨c, hc⟩ : ∃ c, dimensionColumn .escaped true "utm.source" = .ok c := ⟨_, rfl⟩
  exact ⟨⟨c, hc⟩, hexpr .escaped ⟨true, "utm.source", ""⟩ "utm__source" _ rfl,
    hkey ⟨true, "utm.source", ""⟩ c hc⟩

end EventReport

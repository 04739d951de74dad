import EventReport.Proofs.Filter.Tokens

/-! # Conditions on parameters

A `custom` condition names a parameter of the event. A test of a text is looked up among the
parameters (`Atom.LooksUp`): the field is a key, and no column of its name is read. A test of a
number is not; it reads the column that has the name of the parameter (`compile_custom`). -/

set_option autoImplicit false

namespace EventReport

open Sql

/-! ## The text of an atom within that of its predicate -/

theorem infix_joined (sep : String) {text : String} :
    ∀ {texts : List String}, text ∈ texts → text.toList <:+: (Text.joined sep texts).toList
  | [], h => nomatch h
  | [part], h => by
    obtain rfl := List.mem_singleton.mp h
    exact List.infix_refl _
  | part :: next :: rest, h => by
    rw [Text.joined_cons_cons, String.toList_append, String.toList_append]
    rcases List.mem_cons.mp h with rfl | h
    · exact ((List.prefix_append _ _).trans (List.prefix_append _ _)).isInfix
    · exact (infix_joined sep h).trans (List.suffix_append _ _).isInfix

namespace Predicate

mutual

/-- An atom stands in the text of its predicate as it is. -/
theorem infix_of_mem_atoms : ∀ (p : Predicate), ∀ a ∈ p.atoms, a.render.toList <:+: p.render.toList
  | .atom b, a, ha => by
    obtain rfl := List.mem_singleton.mp ha
    exact List.infix_refl _
  | .group k ps, a, ha => by
    obtain ⟨text, htext, hinfix⟩ := exists_infix_of_mem_atomsAll ps a ha
    have hmembers := hinfix.trans (infix_joined (" " ++ k.keyword ++ " ") htext)
    rw [render, String.toList_append, String.toList_append]
    exact (hmembers.trans (List.suffix_append _ _).isInfix).trans (List.prefix_append _ _).isInfix

theorem exists_infix_of_mem_atomsAll : ∀ (ps : List Predicate), ∀ a ∈ atomsAll ps,
    ∃ text ∈ renderAll ps, a.render.toList <:+: text.toList
  | [], a, ha => nomatch ha
  | p :: ps, a, ha => by
    rw [renderAll]
    rcases List.mem_append.mp ha with ha | ha
    · exact ⟨p.render, List.mem_cons_self, infix_of_mem_atoms p a ha⟩
    · obtain ⟨text, htext, hinfix⟩ := exists_infix_of_mem_atomsAll ps a ha
      exact ⟨text, List.mem_cons_of_mem _ htext, hinfix⟩

end

end Predicate

/-! ## Where a condition is looked up -/

/-- The atom looks up a parameter of the event by its key, and compares no column. -/
structure Atom.LooksUp (key : String) (a : Atom) : Prop where
  column : a.column? = none
  text : ∃ test : LiteralTest, a.render =
    "EXISTS(SELECT 1 FROM UNNEST(event_params) WHERE key = " ++ key ++ " AND " ++
      test.render "value.string_value" ++ ")"

def Test.isText : Test → Bool
  | .text _ => true
  | _ => false

/-- A custom condition looks up its parameter exactly if it tests a text; else it reads a column. -/
theorem Condition.Becomes.looksUp_iff {q : Quoting} {c : Condition} {a : Atom} (h : c.Becomes q a)
    (hcustom : c.custom = true) :
    (a.LooksUp (q.literal c.field) ↔ c.test.isText = true) ∧
      (a.column? = some c.field ↔ c.test.isText = false) := by
  cases h with
  | param key test => exact ⟨⟨fun _ => rfl, fun _ => ⟨rfl, _, rfl⟩⟩, nofun, nofun⟩
  | column => cases hcustom
  | number => exact ⟨⟨fun h => (nomatch h.column), nofun⟩, fun _ => rfl, fun _ => rfl⟩

/-- **Custom conditions.** Each condition of a filter that compiles has an atom in what it compiles
to, in order, and the text of the atom stands in the text of the whole. A custom condition looks up
its parameter if it tests a text, and reads the column of that name if it tests a number. -/
theorem compile_custom {options : CompileOptions} {f : Filter} {part : Option Predicate}
    (h : f.compile options = .ok part) :
    ∃ atoms, f.leaves.mapM (·.compile options.quoting) = .ok atoms ∧
      (∀ a ∈ atoms, a.render.toList <:+: (renderPredicate part).toList) ∧
      List.Forall₂ (fun c a => c.custom = true →
        (a.LooksUp (options.quoting.literal c.field) ↔ c.test.isText = true) ∧
          (a.column? = some c.field ↔ c.test.isText = false)) f.leaves atoms := by
  have hleaves := Filter.leaves_of_compileAt h
  refine ⟨_, mapM_eq_ok.mpr hleaves, ?_, ?_⟩
  · cases part with
    | none => exact fun a ha => nomatch ha
    | some p =>
      intro a ha
      rw [Option.toList_some, List.flatMap_singleton] at ha
      exact p.infix_of_mem_atoms a ha
  · exact hleaves.imp fun c a hc => (Condition.becomes_of_compile hc).looksUp_iff

/-- A filter that asks for the same parameter by its text and by its number. -/
def parameterFilter : Filter :=
  .node .or [.leaf ⟨"stay", true, .text ⟨.exact, "10", false⟩⟩, .node .and [],
    .leaf ⟨"stay", true, .number ⟨.greater, "10"⟩⟩]

theorem compile_custom_both :
    ∃ part text number, parameterFilter.compile { quoting := .escaped } = .ok part ∧
      renderPredicate part = "(EXISTS(SELECT 1 FROM UNNEST(event_params) " ++
        "WHERE key = 'stay' AND value.string_value = '10') OR stay > 10)" ∧
      parameterFilter.leaves.mapM (·.compile .escaped) = .ok [text, number] ∧
      text.LooksUp "'stay'" ∧ number.column? = some "stay" := by
  obtain ⟨part, h, hpart⟩ := map_eq_ok.mp (show
    renderPredicate <$> parameterFilter.compile { quoting := .escaped } =
      .ok ("(EXISTS(SELECT 1 FROM UNNEST(event_params) " ++
        "WHERE key = 'stay' AND value.string_value = '10') OR stay > 10)") by decide +kernel)
  obtain ⟨atoms, hatoms, -, hrelated⟩ := compile_custom h
  obtain ⟨text, rest, htext, hrest, rfl⟩ := List.forall₂_cons_left_iff.mp hrelated
  obtain ⟨number, last, hnumber, hlast, rfl⟩ := List.forall₂_cons_left_iff.mp hrest
  obtain rfl := List.forall₂_nil_left_iff.mp hlast
  exact ⟨part, text, number, h, hpart, hatoms, (htext rfl).1.mpr rfl, (hnumber rfl).2.mpr rfl⟩

/-- A filter that asks for a parameter by its number. -/
def numberFilter : Filter :=
  .leaf ⟨"engagement_time", true, .number ⟨.greater, "10"⟩⟩

theorem compile_numberFilter (q : Quoting) : numberFilter.compile { quoting := q } =
    .ok (some (.atom (.number "engagement_time" .greater "10"))) := by
  have hname : q.identifier "engagement_time" = .ok "engagement_time" := by cases q <;> decide
  have hvalue : q.number "10" = .ok "10" := by cases q <;> decide +kernel
  rw [Filter.compile, numberFilter, Filter.compileAt]
  refine (if_neg (by cases q <;> decide)).trans ?_
  exact bind_eq_ok.mpr ⟨_, bind_eq_ok.mpr ⟨_, hname, bind_eq_ok.mpr ⟨_, hvalue, rfl⟩⟩, rfl⟩

/-- Neither quoting looks up a parameter that is compared with a number. -/
theorem compile_custom_number :
    ∃ a, numberFilter.compile { quoting := .verbatim } = .ok (some (.atom a)) ∧
      numberFilter.compile { quoting := .escaped } = .ok (some (.atom a)) ∧
      a.render = "engagement_time > 10" ∧ a.column? = some "engagement_time" ∧
      ¬ a.LooksUp "'engagement_time'" :=
  ⟨_, compile_numberFilter .verbatim, compile_numberFilter .escaped, by decide, rfl,
    fun h => nomatch h.column⟩

end EventReport

import Mathlib.Data.List.Forall2

/-! # Results that may be errors

What a chain of steps that may fail returns, and when. `StopsAtFirst` says that a run fails with the
first of its faults and only then. -/

set_option autoImplicit false

namespace EventReport

variable {ε α β : Type}

theorem bind_eq_ok {x : Except ε α} {f : α → Except ε β} {b : β} :
    (x >>= f) = .ok b ↔ ∃ a, x = .ok a ∧ f a = .ok b := by
  cases x with
  | error e => simp [bind, Except.bind]
  | ok a => simp [bind, Except.bind]

theorem map_eq_ok {x : Except ε α} {f : α → β} {b : β} :
    (f <$> x) = .ok b ↔ ∃ a, x = .ok a ∧ f a = b := by
  cases x with
  | error e => simp [Functor.map, Except.map]
  | ok a => simp [Functor.map, Except.map]

@[simp] theorem pure_eq_ok {a b : α} : (pure a : Except ε α) = .ok b ↔ a = b := by
  simp [pure, Except.pure]

/-- A list passes through a step that may fail if all its members do. -/
theorem mapM_eq_ok {f : α → Except ε β} :
    ∀ {as : List α} {bs : List β},
      as.mapM f = .ok bs ↔ List.Forall₂ (fun a b => f a = .ok b) as bs
  | [], bs => by cases bs <;> simp
  | a :: as, bs => by
    rw [List.mapM_cons, bind_eq_ok]
    constructor
    · rintro ⟨b, hb, h⟩
      obtain ⟨bs', hbs, h⟩ := bind_eq_ok.mp h
      obtain rfl := pure_eq_ok.mp h
      exact .cons hb (mapM_eq_ok.mp hbs)
    · intro h
      obtain ⟨b, bs', hb, hbs, rfl⟩ := List.forall₂_cons_left_iff.mp h
      exact ⟨b, hb, bind_eq_ok.mpr ⟨bs', mapM_eq_ok.mpr hbs, rfl⟩⟩

theorem exists_of_mem_right {R : α → β → Prop} {as : List α} {bs : List β}
    (h : List.Forall₂ R as bs) : ∀ b ∈ bs, ∃ a ∈ as, R a b := by
  induction h with
  | nil => simp
  | cons hab _ ih =>
    intro b hb
    rcases List.mem_cons.mp hb with rfl | hb
    · exact ⟨_, List.mem_cons_self, hab⟩
    · obtain ⟨a, ha, hr⟩ := ih b hb
      exact ⟨a, List.mem_cons_of_mem _ ha, hr⟩

/-! ## The first of several faults -/

/-- The run stops at the first of the faults, or ends with a result if there are none. -/
inductive StopsAtFirst : List ε → Except ε α → Prop
  | ok (a : α) : StopsAtFirst [] (.ok a)
  | error (e : ε) (later : List ε) : StopsAtFirst (e :: later) (.error e)

namespace StopsAtFirst

variable {faults later : List ε} {x : Except ε α}

theorem exists_ok_iff (h : StopsAtFirst faults x) : (∃ a, x = .ok a) ↔ faults = [] := by
  cases h with
  | ok a => simp
  | error e later => simp

theorem eq_error_iff (h : StopsAtFirst faults x) (e : ε) :
    x = .error e ↔ faults.head? = some e := by
  cases h with
  | ok a => simp
  | error e' later => simp

/-- A run that is followed by another has the faults of both, its own first. -/
theorem bind {f : α → Except ε β} (h : StopsAtFirst faults x)
    (hf : ∀ a, x = .ok a → StopsAtFirst later (f a)) :
    StopsAtFirst (faults ++ later) (x >>= f) := by
  cases h with
  | ok a => exact hf a rfl
  | error e faults => exact .error e (faults ++ later)

theorem map (h : StopsAtFirst faults x) (f : α → β) : StopsAtFirst faults (f <$> x) := by
  cases h with
  | ok a => exact .ok (f a)
  | error e later => exact .error e later

theorem bind_pure (h : StopsAtFirst faults x) (f : α → β) :
    StopsAtFirst faults (x >>= fun a => pure (f a)) := by
  rw [bind_pure_comp]
  exact h.map f

/-- A run after a check has the fault of the check before its own. -/
theorem check {p q : Prop} [Decidable p] [Decidable q] {e : ε} (hpq : p ↔ q)
    (h : StopsAtFirst later x) :
    StopsAtFirst ((if p then [e] else []) ++ later) (if q then throw e else x) := by
  by_cases hp : p
  · rw [if_pos hp, if_pos (hpq.mp hp)]
    exact .error e later
  · rw [if_neg hp, if_neg (mt hpq.mpr hp)]
    exact h

/-- A list has the faults of its members, in order. -/
theorem mapM {f : α → Except ε β} {faultsOf : α → List ε} :
    ∀ {as : List α}, (∀ a ∈ as, StopsAtFirst (faultsOf a) (f a)) →
      StopsAtFirst (as.flatMap faultsOf) (as.mapM f)
  | [], _ => .ok []
  | a :: as, h => by
    obtain ⟨ha, has⟩ := List.forall_mem_cons.mp h
    rw [List.flatMap_cons, List.mapM_cons]
    refine ha.bind fun b _ => ?_
    exact (mapM has).bind_pure (b :: ·)

end StopsAtFirst

/-! ## Two runs -/

/-- Two runs end with the same error, or both with results that are related. -/
inductive SameOutcome (R : α → β → Prop) : Except ε α → Except ε β → Prop
  | error (e : ε) : SameOutcome R (.error e) (.error e)
  | ok {a : α} {b : β} : R a b → SameOutcome R (.ok a) (.ok b)

theorem SameOutcome.refl {R : α → α → Prop} (h : ∀ a, R a a) (x : Except ε α) :
    SameOutcome R x x := by
  cases x with
  | error e => exact .error e
  | ok a => exact .ok (h a)

/-- Related steps after related runs are related runs. -/
theorem SameOutcome.bind {γ δ : Type} {R : α → β → Prop} {S : γ → δ → Prop} {x : Except ε α}
    {y : Except ε β} {f : α → Except ε γ} {g : β → Except ε δ} (h : SameOutcome R x y)
    (hf : ∀ a b, R a b → SameOutcome S (f a) (g b)) : SameOutcome S (x >>= f) (y >>= g) := by
  cases h with
  | error e => exact .error e
  | ok hab => exact hf _ _ hab

theorem SameOutcome.bind_same {γ δ : Type} {S : γ → δ → Prop} {x : Except ε α}
    {f : α → Except ε γ} {g : α → Except ε δ} (hf : ∀ a, SameOutcome S (f a) (g a)) :
    SameOutcome S (x >>= f) (x >>= g) :=
  (SameOutcome.refl (fun _ => rfl) x).bind fun a _ h => h ▸ hf a

/-- Two runs that are related to a third one are related. -/
theorem SameOutcome.join {γ : Type} {R : α → γ → Prop} {S : β → γ → Prop} {T : α → β → Prop}
    {x : Except ε α} {y : Except ε β} {z : Except ε γ} (hx : SameOutcome R x z)
    (hy : SameOutcome S y z) (h : ∀ a b c, R a c → S b c → T a b) : SameOutcome T x y := by
  cases hx with
  | error e =>
    cases hy
    exact .error e
  | ok ha =>
    cases hy with
    | ok hb => exact .ok (h _ _ _ ha hb)

/-! ## A run that succeeds with another -/

/-- If the first run ends with a result, so does the second one, and the results are related. -/
def Carries (R : α → β → Prop) (x : Except ε α) (y : Except ε β) : Prop :=
  ∀ a, x = .ok a → ∃ b, y = .ok b ∧ R a b

namespace Carries

variable {γ δ : Type} {R : α → β → Prop} {S : γ → δ → Prop}

theorem ok {a : α} {b : β} (h : R a b) : Carries (ε := ε) R (.ok a) (.ok b) := by
  rintro _ ⟨⟩
  exact ⟨b, rfl, h⟩

theorem bind {x : Except ε α} {y : Except ε β} {f : α → Except ε γ} {g : β → Except ε δ}
    (h : Carries R x y) (hf : ∀ a b, R a b → Carries S (f a) (g b)) :
    Carries S (x >>= f) (y >>= g) := by
  intro c hc
  obtain ⟨a, ha, hfa⟩ := bind_eq_ok.mp hc
  obtain ⟨b, hb, hab⟩ := h a ha
  obtain ⟨d, hd, hcd⟩ := hf a b hab c hfa
  exact ⟨d, bind_eq_ok.mpr ⟨b, hb, hd⟩, hcd⟩

/-- A list is carried over if its members are. -/
theorem mapM {f : γ → Except ε α} {g : γ → Except ε β} :
    ∀ {cs : List γ}, (∀ c ∈ cs, Carries R (f c) (g c)) →
      Carries (List.Forall₂ R) (cs.mapM f) (cs.mapM g)
  | [], _ => by
    rw [List.mapM_nil, List.mapM_nil]
    exact .ok .nil
  | c :: cs, h => by
    obtain ⟨hc, hcs⟩ := List.forall_mem_cons.mp h
    rw [List.mapM_cons, List.mapM_cons]
    refine hc.bind fun a b hab => ?_
    exact (mapM hcs).bind fun as bs habs => .ok (.cons hab habs)

end Carries

end EventReport

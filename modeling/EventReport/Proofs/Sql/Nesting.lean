import EventReport.Proofs.Sql.Spelling

/-! # Keywords and parentheses among tokens

`levelAfter` counts the parentheses that are open after some tokens; tokens are `Balanced` if they
close what they open and nothing else. `ownLevel` leaves out what stands within parentheses, and
`splitOwn` divides tokens at the first one of their own level that passes a test. -/

set_option autoImplicit false

namespace EventReport.Sql

/-! ## Keywords -/

/-- The word is `keyword`, in capitals or not. -/
def Token.isKeyword (keyword : String) : Token → Bool
  | .word text => text.toList.map Char.toUpper = keyword.toList
  | _ => false

theorem toUpper_of_isDigit {c : Char} (h : c.isDigit) : c.toUpper = c := by
  simp only [Char.isDigit, Bool.and_eq_true, decide_eq_true_eq] at h
  unfold Char.toUpper
  rw [dif_neg]
  rintro ⟨ha, -⟩
  have h9 : c.val.toNat ≤ 57 := UInt32.le_iff_toNat_le.mp h.2
  have h97 : 97 ≤ c.val.toNat := UInt32.le_iff_toNat_le.mp ha
  omega

theorem IsNumeral.not_isKeyword {text : String} (h : IsNumeral text) {keyword : String}
    (hk : keyword.toList.head?.all fun c => !c.isDigit && c ≠ '.') :
    (Token.word text).isKeyword keyword = false := by
  obtain ⟨hword, hhead⟩ := h
  cases hcs : text.toList with
  | nil => simp [isWordText, String.toList_eq_nil_iff.mp hcs] at hword
  | cons c cs =>
    have hupper : c.toUpper = c := by
      rcases hhead c (by rw [hcs]; rfl) with hd | rfl
      · exact toUpper_of_isDigit hd
      · rfl
    rw [Token.isKeyword, hcs, List.map_cons, hupper, decide_eq_false_iff_not]
    intro heq
    simp only [← heq, List.head?_cons, Option.all_some, Bool.and_eq_true, Bool.not_eq_true',
      decide_eq_true_eq] at hk
    rcases hhead c (by rw [hcs]; rfl) with hd | hp
    · simp [hd] at hk
    · exact hk.2 hp

/-! ## Levels of parentheses -/

/-- The level of parentheses after a token at level `d`, where none closes below level zero. -/
def Token.levelAfter (d : Nat) (t : Token) : Option Nat :=
  if t = .mark '(' then some (d + 1)
  else if t = .mark ')' then (if d = 0 then none else some (d - 1))
  else some d

/-- The level of parentheses after tokens that begin at level `d`, unless one closes below zero. -/
def levelAfter (d : Nat) : List Token → Option Nat
  | [] => some d
  | t :: ts => (t.levelAfter d).bind fun d => levelAfter d ts

/-- All parentheses are closed, and none is closed that was not open. -/
def Balanced (ts : List Token) : Prop :=
  levelAfter 0 ts = some 0

/-- The tokens outside of parentheses and the parentheses around what is left out, from level `d`
on. -/
def ownFrom (d : Nat) : List Token → List Token
  | [] => []
  | t :: ts =>
    let e := (t.levelAfter d).getD 0
    if d = 0 ∨ e = 0 then t :: ownFrom e ts else ownFrom e ts

/-- The tokens without what stands within parentheses. -/
def ownLevel (ts : List Token) : List Token := ownFrom 0 ts

/-- The tokens before the first one of level zero that passes the test, and those from it on. -/
def splitFrom (p : Token → Bool) (d : Nat) : List Token → List Token × List Token
  | [] => ([], [])
  | t :: ts =>
    if d = 0 ∧ p t then ([], t :: ts)
    else
      let r := splitFrom p ((t.levelAfter d).getD 0) ts
      (t :: r.1, r.2)

/-- The tokens before the first one of their own level that passes the test, and those from it
on. -/
def splitOwn (p : Token → Bool) (ts : List Token) : List Token × List Token := splitFrom p 0 ts

/-! ## Counting levels -/

@[simp] theorem levelAfter_open (d : Nat) (ts : List Token) :
    levelAfter d (.mark '(' :: ts) = levelAfter (d + 1) ts := rfl

/-- A token that is no parenthesis. -/
def Token.isFlat (t : Token) : Bool :=
  t ≠ .mark '(' && t ≠ .mark ')'

theorem Token.levelAfter_of_isFlat {t : Token} (h : t.isFlat) (d : Nat) :
    t.levelAfter d = some d := by
  simp only [isFlat, Bool.and_eq_true, decide_eq_true_eq] at h
  rw [levelAfter, if_neg h.1, if_neg h.2]

theorem levelAfter_cons {t : Token} (h : t.isFlat) (d : Nat) (ts : List Token) :
    levelAfter d (t :: ts) = levelAfter d ts := by
  rw [levelAfter, t.levelAfter_of_isFlat h, Option.bind_some]

theorem levelAfter_append (d : Nat) (a b : List Token) :
    levelAfter d (a ++ b) = (levelAfter d a).bind fun d => levelAfter d b := by
  induction a generalizing d with
  | nil => rfl
  | cons t ts ih =>
    rw [List.cons_append, levelAfter, levelAfter, Option.bind_assoc]
    exact Option.bind_congr fun e _ => ih e

theorem Token.levelAfter_add {t : Token} {d e : Nat} (h : t.levelAfter d = some e) (k : Nat) :
    t.levelAfter (d + k) = some (e + k) := by
  by_cases ho : t = .mark '('
  · rw [levelAfter, if_pos ho, Option.some.injEq] at h ⊢
    omega
  · by_cases hc : t = .mark ')'
    · rw [levelAfter, if_neg ho, if_pos hc] at h ⊢
      split at h
      · cases h
      · cases h
        rw [if_neg (by omega), Nat.sub_add_comm (by omega)]
    · rw [levelAfter, if_neg ho, if_neg hc, Option.some.injEq] at h ⊢
      omega

theorem levelAfter_add {d e : Nat} (k : Nat) {ts : List Token} (h : levelAfter d ts = some e) :
    levelAfter (d + k) ts = some (e + k) := by
  induction ts generalizing d with
  | nil => cases h; rfl
  | cons t ts ih =>
    obtain ⟨d', ht, h⟩ := Option.bind_eq_some_iff.mp h
    rw [levelAfter, t.levelAfter_add ht k, Option.bind_some]
    exact ih h

theorem Balanced.levelAfter {ts : List Token} (h : Balanced ts) (d : Nat) :
    levelAfter d ts = some d := by
  simpa using levelAfter_add d h

theorem Balanced.append {a b : List Token} (ha : Balanced a) (hb : Balanced b) :
    Balanced (a ++ b) := by
  rw [Balanced, levelAfter_append, ha, Option.bind_some, hb]

theorem Balanced.cons {t : Token} (ht : t.isFlat) {ts : List Token} (h : Balanced ts) :
    Balanced (t :: ts) := by
  rw [Balanced, levelAfter_cons ht, h]

theorem balanced_of_all_isFlat {ts : List Token} (h : ts.all Token.isFlat) : Balanced ts := by
  induction ts with
  | nil => rfl
  | cons t ts ih =>
    rw [List.all_cons, Bool.and_eq_true] at h
    exact (ih h.2).cons h.1

theorem Balanced.parens {ts : List Token} (h : Balanced ts) :
    Balanced (.mark '(' :: (ts ++ [Token.mark ')'])) := by
  rw [Balanced, levelAfter_open, levelAfter_append, h.levelAfter, Option.bind_some]
  rfl

theorem balanced_joinTokens {sep : List Token} (hsep : Balanced sep) :
    ∀ {parts : List (List Token)}, (∀ part ∈ parts, Balanced part) →
      Balanced (joinTokens sep parts)
  | [], _ => rfl
  | [part], h => h part (List.mem_singleton_self _)
  | part :: _ :: _, h =>
    ((h part List.mem_cons_self).append hsep).append
      (balanced_joinTokens hsep fun p hp => h p (List.mem_cons_of_mem _ hp))

/-- Blanks are of no account for the parentheses. -/
theorem levelAfter_significant (d : Nat) (ts : List Token) :
    levelAfter d (significant ts) = levelAfter d ts := by
  induction ts generalizing d with
  | nil => rfl
  | cons t ts ih =>
    by_cases ht : t = .mark ' '
    · subst ht
      exact ih d
    · rw [significant, List.filter_cons_of_pos (by simpa using ht), levelAfter, levelAfter]
      exact Option.bind_congr fun e _ => ih e

theorem Balanced.significant {ts : List Token} (h : Balanced ts) : Balanced (significant ts) := by
  rw [Balanced, levelAfter_significant, h]

/-! ## Tokens of the own level -/

theorem ownFrom_append {d e : Nat} {a : List Token} (h : levelAfter d a = some e)
    (b : List Token) : ownFrom d (a ++ b) = ownFrom d a ++ ownFrom e b := by
  induction a generalizing d with
  | nil => cases h; rfl
  | cons t ts ih =>
    obtain ⟨d', ht, h⟩ := Option.bind_eq_some_iff.mp h
    simp only [List.cons_append, ownFrom, ht, Option.getD_some, ih h]
    split <;> rfl

/-- Within parentheses, balanced tokens are left out. -/
theorem ownFrom_succ {d e : Nat} {ts : List Token} (h : levelAfter d ts = some e) :
    ownFrom (d + 1) ts = [] := by
  induction ts generalizing d with
  | nil => rfl
  | cons t ts ih =>
    obtain ⟨d', ht, h⟩ := Option.bind_eq_some_iff.mp h
    simp [ownFrom, t.levelAfter_add ht 1, ih h]

theorem Balanced.ownLevel_append {a : List Token} (h : Balanced a) (b : List Token) :
    ownLevel (a ++ b) = ownLevel a ++ ownLevel b :=
  ownFrom_append h b

theorem ownLevel_cons {t : Token} (h : t.isFlat) (ts : List Token) :
    ownLevel (t :: ts) = t :: ownLevel ts := by
  simp [ownLevel, ownFrom, t.levelAfter_of_isFlat h]

theorem Balanced.ownLevel_parens {ts : List Token} (h : Balanced ts) (rest : List Token) :
    ownLevel (.mark '(' :: (ts ++ .mark ')' :: rest)) =
      .mark '(' :: .mark ')' :: ownLevel rest := by
  have hopen : ownLevel (.mark '(' :: (ts ++ .mark ')' :: rest)) =
      .mark '(' :: ownFrom 1 (ts ++ .mark ')' :: rest) := rfl
  rw [hopen, ownFrom_append (h.levelAfter 1), ownFrom_succ h]
  rfl

theorem mem_of_mem_ownFrom {t : Token} {ts : List Token} {d : Nat} (h : t ∈ ownFrom d ts) :
    t ∈ ts := by
  induction ts generalizing d with
  | nil => exact h
  | cons u us ih =>
    rw [ownFrom] at h
    split at h
    · rcases List.mem_cons.mp h with rfl | h
      · exact List.mem_cons_self
      · exact List.mem_cons_of_mem _ (ih h)
    · exact List.mem_cons_of_mem _ (ih h)

/-! ## Dividing tokens -/

/-- Tokens that do not pass the test at level zero lie before the division. A parenthesis that
closes one of them does not stand at level zero. -/
theorem splitFrom_append {p : Token → Bool} {d e : Nat} {a : List Token}
    (h : levelAfter d a = some e) (hp : ∀ t ∈ ownFrom d a, t ≠ .mark ')' → p t = false)
    (b : List Token) :
    splitFrom p d (a ++ b) = (a ++ (splitFrom p e b).1, (splitFrom p e b).2) := by
  induction a generalizing d with
  | nil => cases h; rfl
  | cons t ts ih =>
    obtain ⟨d', ht, h⟩ := Option.bind_eq_some_iff.mp h
    have hstop : ¬ (d = 0 ∧ p t) := by
      rintro ⟨rfl, hpt⟩
      have hclose : t ≠ .mark ')' := by
        rintro rfl
        simp [Token.levelAfter] at ht
      have := hp t (by simp [ownFrom]) hclose
      simp [hpt] at this
    have hrest : ∀ u ∈ ownFrom d' ts, u ≠ .mark ')' → p u = false := by
      intro u hu
      refine hp u ?_
      simp only [ownFrom, ht, Option.getD_some]
      split
      · exact List.mem_cons_of_mem _ hu
      · exact hu
    rw [List.cons_append, splitFrom, if_neg hstop, ht, Option.getD_some, ih h hrest]
    rfl

theorem Balanced.splitOwn_append {p : Token → Bool} {a : List Token} (h : Balanced a)
    (hp : ∀ t ∈ ownLevel a, t ≠ .mark ')' → p t = false) (b : List Token) :
    splitOwn p (a ++ b) = (a ++ (splitOwn p b).1, (splitOwn p b).2) :=
  splitFrom_append h hp b

theorem splitOwn_stop {p : Token → Bool} {t : Token} (h : p t) (ts : List Token) :
    splitOwn p (t :: ts) = ([], t :: ts) := by
  simp [splitOwn, splitFrom, h]

end EventReport.Sql

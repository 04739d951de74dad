import Mathlib.Data.List.Chain
import EventReport.Sql.Quoting

/-! # Tokens of a statement

`tokens?` cuts a statement into literals between single quotes, in which a backslash takes the
character after it along, names between backticks, words, and all other characters one by one,
blanks among them. It fails on a literal or a name that is not closed.

`Spells` says that tokens are the parts of a text in order: each is one of its kind, and two words
never touch. A text is cut into exactly the tokens that spell it (`tokens?_of_spells`). -/

set_option autoImplicit false

namespace EventReport.Sql

/-- A token with its text, the quotes included. -/
inductive Token where
  | literal (text : String)
  | name (text : String)
  | word (text : String)
  | mark (char : Char)
  deriving DecidableEq, Repr

/-- Letters and digits of ASCII, underscores and dots make up words. -/
def isWordChar (c : Char) : Bool :=
  c.isAlphanum || c = '_' || c = '.'

namespace Token

def chars : Token → List Char
  | literal text | name text | word text => text.toList
  | mark c => [c]

def isWord : Token → Bool
  | word _ => true
  | _ => false

end Token

/-! ## Cutting a text into tokens -/

/-- Where a text is cut: between two tokens, or within one, of which `read` are the characters so
far. In `escaped` a backslash of a literal waits for the character that it takes along. -/
inductive Cursor where
  | between
  | word (read : List Char)
  | literal (read : List Char)
  | escaped (read : List Char)
  | name (read : List Char)

namespace Cursor

/-- The first character of a token. Backticks are quotes of `names` only if these are asked for. -/
def start (names : Bool) (c : Char) : List Token × Cursor :=
  if c = '\'' then ([], literal [c])
  else if c = '`' ∧ names then ([], name [c])
  else if isWordChar c then ([], word [c])
  else ([.mark c], between)

/-- The tokens that end with or before a character, and where it leaves the cut. -/
def step (names : Bool) : Cursor → Char → List Token × Cursor
  | between, c => start names c
  | word read, c =>
    if isWordChar c then ([], word (read ++ [c]))
    else (.word (String.ofList read) :: (start names c).1, (start names c).2)
  | literal read, c =>
    if c = '\'' then ([.literal (String.ofList (read ++ [c]))], between)
    else if c = '\\' then ([], escaped (read ++ [c]))
    else ([], literal (read ++ [c]))
  | escaped read, c => ([], literal (read ++ [c]))
  | name read, c =>
    if c = '`' then ([.name (String.ofList (read ++ [c]))], between) else ([], name (read ++ [c]))

/-- The tokens that end with the text, which must not end within quotes. -/
def finish : Cursor → Option (List Token)
  | between => some []
  | word read => some [.word (String.ofList read)]
  | _ => none

/-- The tokens of the rest of a text. -/
def tokens? (names : Bool) : Cursor → List Char → Option (List Token)
  | cursor, [] => cursor.finish
  | cursor, c :: cs =>
    (tokens? names (cursor.step names c).2 cs).map ((cursor.step names c).1 ++ ·)

end Cursor

/-- The tokens of a text, if all its quotes are closed. -/
def tokens? (names : Bool) (text : String) : Option (List Token) :=
  Cursor.tokens? names .between text.toList

/-! ## Tokens that spell a text -/

/-- What stands between the quotes of a literal: no quote that closes it, and no backslash at the
end that takes the quote along. -/
def isLiteralBody : List Char → Bool
  | [] => true
  | '\\' :: _ :: cs => isLiteralBody cs
  | c :: cs => c ≠ '\'' && c ≠ '\\' && isLiteralBody cs

/-- The text is one literal. -/
def IsLiteral (text : String) : Prop :=
  ∃ body, isLiteralBody body ∧ text.toList = '\'' :: (body ++ ['\''])

def IsQuotedName (text : String) : Prop :=
  ∃ body, '`' ∉ body ∧ text.toList = '`' :: (body ++ ['`'])

/-- The text is one word. -/
def isWordText (text : String) : Bool :=
  text ≠ "" && text.toList.all isWordChar

/-- The token is one of its kind. -/
def Token.Valid (names : Bool) : Token → Prop
  | literal text => IsLiteral text
  | name text => names ∧ IsQuotedName text
  | word text => isWordText text
  | mark c => ¬ isWordChar c ∧ c ≠ '\'' ∧ ¬ (c = '`' ∧ names)

/-- Two words never touch. -/
def Separated (ts : List Token) : Prop :=
  ts.IsChain fun a b => ¬ (a.isWord ∧ b.isWord)

/-- The tokens are the parts of the text in order. -/
structure Spells (names : Bool) (text : String) (ts : List Token) : Prop where
  chars : ts.flatMap Token.chars = text.toList
  valid : ∀ t ∈ ts, t.Valid names
  separated : Separated ts

/-! ## A text is cut into the tokens that spell it -/

namespace Cursor

variable {names : Bool}

theorem tokens?_cons (cursor : Cursor) (c : Char) (cs : List Char) :
    tokens? names cursor (c :: cs) =
      (tokens? names (cursor.step names c).2 cs).map ((cursor.step names c).1 ++ ·) := rfl

theorem tokens?_word {cs : List Char} (h : cs.all isWordChar) (read rest : List Char) :
    tokens? names (word read) (cs ++ rest) = tokens? names (word (read ++ cs)) rest := by
  induction cs generalizing read with
  | nil => simp
  | cons c cs ih =>
    simp only [List.all_cons, Bool.and_eq_true] at h
    rw [List.cons_append, tokens?_cons]
    simp [step, h.1, ih h.2]

theorem tokens?_word_end {rest : List Char} (h : ∀ c ∈ rest.head?, ¬ isWordChar c)
    (read : List Char) :
    tokens? names (word read) rest =
      (tokens? names between rest).map (.word (String.ofList read) :: ·) := by
  cases rest with
  | nil => rfl
  | cons c cs =>
    have hc : isWordChar c = false := by simpa using h c rfl
    simp [tokens?_cons, step, hc, Function.comp_def]

theorem tokens?_literal {body : List Char} (h : isLiteralBody body) (read rest : List Char) :
    tokens? names (literal read) (body ++ rest) = tokens? names (literal (read ++ body)) rest := by
  fun_induction isLiteralBody body generalizing read with
  | case1 => simp
  | case2 c cs ih => simp [tokens?_cons, step, ih h]
  | case3 c cs hc ih =>
    simp only [Bool.and_eq_true, decide_eq_true_eq] at h
    obtain ⟨⟨hq, hb⟩, h⟩ := h
    simp [tokens?_cons, step, hq, hb, ih h]

theorem tokens?_name {body : List Char} (h : '`' ∉ body) (read rest : List Char) :
    tokens? names (name read) (body ++ rest) = tokens? names (name (read ++ body)) rest := by
  induction body generalizing read with
  | nil => simp
  | cons c cs ih =>
    simp only [List.mem_cons, not_or] at h
    simp [tokens?_cons, step, Ne.symm h.1, ih h.2]

/-- One token is cut off the front of a text, if the text does not go on with a word after one. -/
theorem tokens?_between {t : Token} (ht : t.Valid names) {rest : List Char}
    (h : t.isWord → ∀ c ∈ rest.head?, ¬ isWordChar c) :
    tokens? names between (t.chars ++ rest) = (tokens? names between rest).map (t :: ·) := by
  cases t with
  | literal text =>
    obtain ⟨body, hb, htext⟩ := ht
    have hof : String.ofList ('\'' :: (body ++ ['\''])) = text :=
      (congrArg String.ofList htext).symm.trans String.ofList_toList
    simp only [Token.chars, htext, List.cons_append, List.append_assoc, List.nil_append]
    simp [tokens?_cons, step, start, tokens?_literal hb, hof, Function.comp_def]
  | name text =>
    obtain ⟨hn, body, hb, htext⟩ := ht
    have hof : String.ofList ('`' :: (body ++ ['`'])) = text :=
      (congrArg String.ofList htext).symm.trans String.ofList_toList
    simp only [Token.chars, htext, List.cons_append, List.append_assoc, List.nil_append]
    simp [tokens?_cons, step, start, tokens?_name hb, hof, hn,
      Function.comp_def]
  | word text =>
    simp only [Token.Valid, isWordText, Bool.and_eq_true, decide_eq_true_eq] at ht
    obtain ⟨hne, hall⟩ := ht
    cases hcs : text.toList with
    | nil => exact absurd (String.toList_eq_nil_iff.mp hcs) hne
    | cons c cs =>
      rw [hcs, List.all_cons, Bool.and_eq_true] at hall
      have hof : String.ofList (c :: cs) = text :=
        (congrArg String.ofList hcs).symm.trans String.ofList_toList
      have hq : c ≠ '\'' ∧ c ≠ '`' := by
        constructor <;> (rintro rfl; exact absurd hall.1 (by decide))
      simp only [Token.chars, hcs, List.cons_append]
      simp [tokens?_cons, step, start, hq, hall.1, tokens?_word hall.2,
        tokens?_word_end (h rfl), hof, Function.comp_def]
  | mark c =>
    obtain ⟨hw, hq, hn⟩ := ht
    simp [Token.chars, tokens?_cons, step, start, hw, hq, hn]

end Cursor

theorem Token.Valid.head? {names : Bool} {t : Token} (ht : t.Valid names) (hw : ¬ t.isWord)
    (rest : List Char) : ∀ c ∈ (t.chars ++ rest).head?, ¬ isWordChar c := by
  cases t with
  | literal text =>
    obtain ⟨body, -, htext⟩ := ht
    simp [chars, htext]; decide
  | name text =>
    obtain ⟨-, body, -, htext⟩ := ht
    simp [chars, htext]; decide
  | word text => exact absurd rfl hw
  | mark c => simpa [chars] using ht.1

theorem Cursor.tokens?_flatMap {names : Bool} :
    ∀ {ts : List Token}, (∀ t ∈ ts, t.Valid names) → Separated ts →
      Cursor.tokens? names .between (ts.flatMap Token.chars) = some ts
  | [], _, _ => rfl
  | t :: ts, hv, hs => by
    obtain ⟨ht, hts⟩ := List.forall_mem_cons.mp hv
    have htail : Separated ts := hs.tail
    rw [List.flatMap_cons, tokens?_between ht, tokens?_flatMap hts htail]
    · rfl
    · intro hw
      cases ts with
      | nil => simp
      | cons u us =>
        have hu : ¬ u.isWord := fun hu => (List.isChain_cons_cons.mp hs).1 ⟨hw, hu⟩
        rw [List.flatMap_cons]
        exact (hts u List.mem_cons_self).head? hu _

/-- **A text is cut into the tokens that spell it.** -/
theorem tokens?_of_spells {names : Bool} {text : String} {ts : List Token}
    (h : Spells names text ts) : tokens? names text = some ts := by
  rw [tokens?, ← h.chars]
  exact Cursor.tokens?_flatMap h.valid h.separated

end EventReport.Sql

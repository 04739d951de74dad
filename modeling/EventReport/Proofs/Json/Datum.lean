import EventReport.Json.Reader
import EventReport.Proofs.Json.Spelling

/-! # Values and their texts

A `Datum` is any value that a JSON document can hold, whether it can be read or only be skipped.
`Datum.node` is what a reader sees of it, and `Datum.WrittenAs` says which texts are texts of the
value, whatever blanks and spellings they choose.

The tokens of a value are arranged into its node, whatever follows them (`arrange_tokens`), so a
reader of any text of the value is a reader of its node (`decode_of_writtenAs`). Every value has a
text (`exists_writtenAs`). -/

set_option autoImplicit false

namespace EventReport.Json

/-- A value of a document. A text without content has half of a surrogate pair standing alone. -/
inductive Datum where
  | null
  | bool (b : Bool)
  | number (n : Numeral) (valid : n.Valid)
  | text (content : Option String)
  | array (items : List Datum)
  | object (members : List (Option String × Datum))

namespace Datum

mutual

/-- What a reader sees of a value. -/
def node : Datum → Node
  | null => .null
  | bool b => .bool b
  | number n _ => .number n
  | text content => .text content
  | array items => .array (itemNodes items) none
  | object members => .object (memberNodes members) none

def itemNodes : List Datum → List Node
  | [] => []
  | v :: vs => node v :: itemNodes vs

def memberNodes : List (Option String × Datum) → List (Option String × Node)
  | [] => []
  | (key, v) :: ms => (key, node v) :: memberNodes ms

end

theorem itemNodes_eq_map : ∀ vs : List Datum, itemNodes vs = vs.map node
  | [] => rfl
  | v :: vs => by rw [itemNodes, itemNodes_eq_map vs, List.map_cons]

theorem memberNodes_eq_map :
    ∀ ms : List (Option String × Datum), memberNodes ms = ms.map fun m => (m.1, m.2.node)
  | [] => rfl
  | (key, v) :: ms => by rw [memberNodes, memberNodes_eq_map ms, List.map_cons]

/-- Every value can be passed over. -/
theorem skip_node (v : Datum) : v.node.skip = .ok () := by
  cases v <;> rw [node] <;> rfl

mutual

/-- The tokens of a value. -/
def tokens : Datum → List Token
  | null => [.null]
  | bool b => [.bool b]
  | number n _ => [.number n]
  | text content => [.text content]
  | array items => .openBracket :: itemTokens items ++ [.closeBracket]
  | object members => .openBrace :: memberTokens members ++ [.closeBrace]

/-- The items of an array with commas between. -/
def itemTokens : List Datum → List Token
  | [] => []
  | [v] => tokens v
  | v :: next :: vs => tokens v ++ .comma :: itemTokens (next :: vs)

/-- The members of an object with commas between. -/
def memberTokens : List (Option String × Datum) → List Token
  | [] => []
  | [(key, v)] => .text key :: .colon :: tokens v
  | (key, v) :: next :: ms => .text key :: .colon :: tokens v ++ .comma :: memberTokens (next :: ms)

end

/-- The text is one of the value. -/
def WrittenAs (v : Datum) (text : String) : Prop :=
  Spells text.toList v.tokens

end Datum

/-! ## Arranging -/

/-- What an outcome leads to with the tokens that follow. -/
def Outcome.resume : Outcome → List Token → Document
  | .more state frames, ts => arrange state frames ts
  | .complete root, ts => ⟨root, ts ≠ []⟩
  | .stuck root, _ => ⟨root, false⟩

theorem arrange_cons (state : State) (frames : List Frame) (t : Token) (ts : List Token) :
    arrange state frames (t :: ts) = (step state frames t).resume ts := by
  rw [arrange]
  cases step state frames t <;> rfl

namespace Datum

/-- No value begins with the end of an array. -/
theorem tokens_eq_cons (v : Datum) : ∃ t ts, v.tokens = t :: ts ∧ t ≠ .closeBracket := by
  cases v with
  | array items => exact ⟨.openBracket, _, by rw [tokens, List.cons_append], nofun⟩
  | object members => exact ⟨.openBrace, _, by rw [tokens, List.cons_append], nofun⟩
  | _ => exact ⟨_, _, rfl, nofun⟩

/-- A first item is read as a value is wherever it is awaited. -/
theorem arrange_items_fresh (v : Datum) (vs : List Datum) (frames : List Frame) (ts : List Token) :
    arrange (.items [] true) frames (itemTokens (v :: vs) ++ ts) =
      arrange .value (.item [] :: frames) (itemTokens (v :: vs) ++ ts) := by
  obtain ⟨t, rest, ht, hne⟩ : ∃ t rest, itemTokens (v :: vs) = t :: rest ∧ t ≠ .closeBracket := by
    obtain ⟨t, rest, ht, hne⟩ := v.tokens_eq_cons
    cases vs with
    | nil => exact ⟨t, rest, by rw [itemTokens, ht], hne⟩
    | cons next vs => exact ⟨t, _, by rw [itemTokens, ht, List.cons_append], hne⟩
  -- An array that has just been opened differs from an awaited value in its closing bracket only.
  rw [ht, List.cons_append, arrange_cons, arrange_cons]
  cases t
  any_goals rfl
  exact absurd rfl hne

mutual

/-- **Wherever a value is awaited, its tokens are arranged into its node.** -/
theorem arrange_tokens : ∀ (v : Datum) (frames : List Frame) (ts : List Token),
    arrange .value frames (v.tokens ++ ts) = (finish v.node frames).resume ts
  | null, frames, ts => arrange_cons ..
  | bool b, frames, ts => arrange_cons ..
  | number n _, frames, ts => arrange_cons ..
  | text content, frames, ts => arrange_cons ..
  | array [], frames, ts => by
    rw [tokens, List.cons_append, List.cons_append, arrange_cons]
    exact arrange_cons ..
  | array (v :: vs), frames, ts => by
    rw [tokens, List.cons_append, List.cons_append, List.append_assoc, arrange_cons, step,
      beginValue, Outcome.resume, arrange_items_fresh]
    exact arrange_items (v :: vs) (List.cons_ne_nil _ _) [] frames ts
  | object [], frames, ts => by
    rw [tokens, List.cons_append, List.cons_append, arrange_cons]
    exact arrange_cons ..
  | object (m :: ms), frames, ts => by
    rw [tokens, List.cons_append, List.cons_append, List.append_assoc, arrange_cons, step,
      beginValue, Outcome.resume]
    exact arrange_members (m :: ms) (List.cons_ne_nil _ _) (.members [] true) [] frames ts
      fun _ => rfl

/-- The items of an array that has been opened, and its end. -/
theorem arrange_items : ∀ (vs : List Datum), vs ≠ [] →
    ∀ (before : List Node) (frames : List Frame) (ts : List Token),
      arrange .value (.item before :: frames) (itemTokens vs ++ (.closeBracket :: ts)) =
        (finish (.array (before.reverse ++ itemNodes vs) none) frames).resume ts
  | [], hne, _, _, _ => absurd rfl hne
  | [v], _, before, frames, ts => by
    rw [itemTokens, arrange_tokens v, finish, Outcome.resume, arrange_cons]
    simp [step, itemNodes]
  | v :: next :: vs, _, before, frames, ts => by
    rw [itemTokens, List.append_assoc, arrange_tokens v, finish, Outcome.resume, List.cons_append,
      arrange_cons, step, Outcome.resume,
      arrange_items (next :: vs) (List.cons_ne_nil _ _) (v.node :: before) frames ts]
    simp [itemNodes]

/-- The members of an object where a key is awaited, and its end. -/
theorem arrange_members : ∀ (ms : List (Option String × Datum)), ms ≠ [] →
    ∀ (state : State) (before : List (Option String × Node)) (frames : List Frame)
      (ts : List Token),
      (∀ key, step state frames (.text key) = .more (.colon before key) frames) →
      arrange state frames (memberTokens ms ++ (.closeBrace :: ts)) =
        (finish (.object (before.reverse ++ memberNodes ms) none) frames).resume ts
  | [], hne, _, _, _, _, _ => absurd rfl hne
  | [(key, v)], _, state, before, frames, ts, hkey => by
    rw [memberTokens, List.cons_append, List.cons_append, arrange_cons, hkey, Outcome.resume,
      arrange_cons, step, Outcome.resume, arrange_tokens v, finish, Outcome.resume, arrange_cons]
    simp [step, memberNodes]
  | (key, v) :: next :: ms, _, state, before, frames, ts, hkey => by
    rw [memberTokens, List.cons_append, List.cons_append, List.append_assoc, List.cons_append,
      List.cons_append, arrange_cons, hkey, Outcome.resume, arrange_cons, step, Outcome.resume,
      arrange_tokens v, finish, Outcome.resume, arrange_cons, step, Outcome.resume,
      arrange_members (next :: ms) (List.cons_ne_nil _ _) (.key _) _ frames ts
        fun _ => rfl]
    simp [memberNodes]

end

/-! ## Texts -/

/-- A reader of a text of a value is a reader of its node. -/
theorem decode_of_writtenAs {α : Type} (reader : Nat → Reader α) {v : Datum} {text : String}
    (h : v.WrittenAs text) : decode reader text = reader depthLimit v.node := by
  have hdocument : Document.ofText text.toList = ⟨v.node, false⟩ := by
    have := v.arrange_tokens [] []
    rw [List.append_nil] at this
    rw [Document.ofText, tokens_of_spells h, this]
    rfl
  rw [decode, hdocument, Document.read]
  cases reader depthLimit v.node <;> rfl

mutual

theorem spellable_of_mem_tokens : ∀ v : Datum, ∀ t ∈ v.tokens, t.Spellable
  | null => List.forall_mem_singleton.mpr ⟨_, .null⟩
  | bool true => List.forall_mem_singleton.mpr ⟨_, .yes⟩
  | bool false => List.forall_mem_singleton.mpr ⟨_, .no⟩
  | number _ valid => List.forall_mem_singleton.mpr (spellable_number valid)
  | text content => List.forall_mem_singleton.mpr (spellable_text content)
  | array items => by
    rw [tokens, List.cons_append, List.forall_mem_cons, List.forall_mem_append,
      List.forall_mem_singleton]
    exact ⟨⟨_, .openBracket⟩, spellable_of_mem_itemTokens items, ⟨_, .closeBracket⟩⟩
  | object members => by
    rw [tokens, List.cons_append, List.forall_mem_cons, List.forall_mem_append,
      List.forall_mem_singleton]
    exact ⟨⟨_, .openBrace⟩, spellable_of_mem_memberTokens members, ⟨_, .closeBrace⟩⟩

theorem spellable_of_mem_itemTokens : ∀ vs : List Datum, ∀ t ∈ itemTokens vs, t.Spellable
  | [] => nofun
  | [v] => spellable_of_mem_tokens v
  | v :: next :: vs => by
    rw [itemTokens, List.forall_mem_append, List.forall_mem_cons]
    exact ⟨spellable_of_mem_tokens v, ⟨_, .comma⟩, spellable_of_mem_itemTokens (next :: vs)⟩

theorem spellable_of_mem_memberTokens :
    ∀ ms : List (Option String × Datum), ∀ t ∈ memberTokens ms, t.Spellable
  | [] => nofun
  | [(key, v)] => by
    rw [memberTokens, List.forall_mem_cons, List.forall_mem_cons]
    exact ⟨spellable_text key, ⟨_, .colon⟩, spellable_of_mem_tokens v⟩
  | (key, v) :: next :: ms => by
    rw [memberTokens, List.cons_append, List.cons_append, List.forall_mem_cons,
      List.forall_mem_cons, List.forall_mem_append, List.forall_mem_cons]
    exact ⟨spellable_text key, ⟨_, .colon⟩, spellable_of_mem_tokens v, ⟨_, .comma⟩,
      spellable_of_mem_memberTokens (next :: ms)⟩

end

/-- Every value has a text. -/
theorem exists_writtenAs (v : Datum) : ∃ text, v.WrittenAs text := by
  obtain ⟨cs, hcs, -⟩ := exists_spells v.spellable_of_mem_tokens
  exact ⟨String.ofList cs, by rwa [WrittenAs, String.toList_ofList]⟩

end Datum

end EventReport.Json

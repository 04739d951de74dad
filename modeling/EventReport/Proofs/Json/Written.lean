import EventReport.Proofs.Json.Datum

/-! # Written values are read

`Value.node` is what a reader sees of a value, numbers aside (`Value.Plain`). The text of such a
value is a text of a datum with this node (`writtenAs_datum`), so a reader of the text is a reader
of the node (`decode_compact`). -/

set_option autoImplicit false

namespace EventReport.Json

namespace Value

/-- The value holds no numbers. -/
inductive Plain : Value → Prop
  | bool (b : Bool) : Plain (.bool b)
  | text (s : String) : Plain (.text s)
  | array {items : List Value} : (∀ v ∈ items, Plain v) → Plain (.array items)
  | object {members : List (String × Value)} : (∀ m ∈ members, Plain m.2) → Plain (.object members)

@[simp] theorem plain_bool (b : Bool) : (Value.bool b).Plain := .bool b

@[simp] theorem plain_text (s : String) : (Value.text s).Plain := .text s

@[simp] theorem plain_array {items : List Value} :
    (Value.array items).Plain ↔ ∀ v ∈ items, v.Plain :=
  ⟨fun | .array h => h, .array⟩

@[simp] theorem plain_object {members : List (String × Value)} :
    (Value.object members).Plain ↔ ∀ m ∈ members, m.2.Plain :=
  ⟨fun | .object h => h, .object⟩

mutual

/-- What a reader sees of a value, numbers aside. -/
def node : Value → Node
  | bool b => .bool b
  | text s => .text (some s)
  | real _ => .null
  | array items => .array (itemNodes items) none
  | object members => .object (memberNodes members) none

def itemNodes : List Value → List Node
  | [] => []
  | v :: vs => node v :: itemNodes vs

def memberNodes : List (String × Value) → List (Option String × Node)
  | [] => []
  | (key, v) :: ms => (some key, node v) :: memberNodes ms

end

theorem itemNodes_eq_map : ∀ vs : List Value, itemNodes vs = vs.map node
  | [] => rfl
  | v :: vs => by rw [itemNodes, itemNodes_eq_map vs, List.map_cons]

theorem Plain.node_ne_null {v : Value} (h : v.Plain) : v.node ≠ .null := by
  cases h <;> rw [node] <;> nofun

mutual

/-- The value among all values that a document can hold, numbers aside. -/
def datum : Value → Datum
  | bool b => .bool b
  | text s => .text (some s)
  | real _ => .null
  | array items => .array (itemData items)
  | object members => .object (memberData members)

def itemData : List Value → List Datum
  | [] => []
  | v :: vs => datum v :: itemData vs

def memberData : List (String × Value) → List (Option String × Datum)
  | [] => []
  | (key, v) :: ms => (some key, datum v) :: memberData ms

end

mutual

theorem node_datum : ∀ v : Value, v.datum.node = v.node
  | bool _ | text _ | real _ => rfl
  | array items => by rw [datum, Datum.node, itemNodes_itemData items, node]
  | object members => by rw [datum, Datum.node, memberNodes_memberData members, node]

theorem itemNodes_itemData : ∀ vs : List Value, Datum.itemNodes (itemData vs) = itemNodes vs
  | [] => rfl
  | v :: vs => by rw [itemData, Datum.itemNodes, node_datum v, itemNodes_itemData vs, itemNodes]

theorem memberNodes_memberData :
    ∀ ms : List (String × Value), Datum.memberNodes (memberData ms) = memberNodes ms
  | [] => rfl
  | (key, v) :: ms => by
    rw [memberData, Datum.memberNodes, node_datum v, memberNodes_memberData ms, memberNodes]

end

end Value

/-! ## The text of a value -/

/-- The text of the value spells its tokens before whatever follows them. -/
def Value.Spelt (v : Value) : Prop :=
  ∀ {rest : List Char} {ts : List Token}, Spells rest ts →
    Spells (v.write ++ rest) (v.datum.tokens ++ ts)

theorem spells_writeItems {rest : List Char} {ts : List Token} (hrest : Spells rest ts) :
    ∀ {items : List Value}, (∀ v ∈ items, v.Spelt) →
      Spells (Value.writeItems items ++ rest) (Datum.itemTokens (Value.itemData items) ++ ts)
  | [], _ => hrest
  | [v], h => by
    rw [Value.writeItems, Value.itemData, Value.itemData, Datum.itemTokens]
    exact h v List.mem_cons_self hrest
  | v :: next :: items, h => by
    obtain ⟨hv, hitems⟩ := List.forall_mem_cons.mp h
    rw [Value.writeItems, Value.itemData, Value.itemData, Datum.itemTokens, List.append_assoc,
      List.append_assoc]
    exact hv (.char .comma nofun (spells_writeItems hrest hitems))

theorem spells_writeMembers {rest : List Char} {ts : List Token} (hrest : Spells rest ts) :
    ∀ {members : List (String × Value)}, (∀ m ∈ members, m.2.Spelt) →
      Spells (Value.writeMembers members ++ rest)
        (Datum.memberTokens (Value.memberData members) ++ ts)
  | [], _ => hrest
  | [(key, v)], h => by
    have hv : v.Spelt := h (key, v) List.mem_cons_self
    rw [Value.writeMembers, Value.memberData, Value.memberData, Datum.memberTokens,
      List.append_assoc]
    exact .lexeme (lexeme_writtenText key) nofun (.char .colon nofun (hv hrest))
  | (key, v) :: next :: members, h => by
    obtain ⟨hv, hmembers⟩ := List.forall_mem_cons.mp h
    rw [Value.writeMembers, Value.memberData, Value.memberData, Datum.memberTokens,
      List.append_assoc, List.append_assoc, List.append_assoc]
    exact .lexeme (lexeme_writtenText key) nofun (.char .colon nofun
      (hv (.char .comma nofun (spells_writeMembers hrest hmembers))))

/-- **The text of a value spells its tokens.** -/
theorem spells_write {v : Value} (h : v.Plain) : v.Spelt := by
  induction h with
  | bool b =>
    intro rest ts hrest
    cases b with
    | false => exact .lexeme .no nofun hrest
    | true => exact .lexeme .yes nofun hrest
  | text s =>
    intro rest ts hrest
    exact .lexeme (lexeme_writtenText s) nofun hrest
  | array _ ih =>
    intro rest ts hrest
    rw [Value.write, Value.datum, Datum.tokens, List.append_assoc, List.append_assoc]
    exact .char .openBracket nofun (spells_writeItems (.char .closeBracket nofun hrest) ih)
  | object _ ih =>
    intro rest ts hrest
    rw [Value.write, Value.datum, Datum.tokens, List.append_assoc, List.append_assoc]
    exact .char .openBrace nofun (spells_writeMembers (.char .closeBrace nofun hrest) ih)

theorem writtenAs_datum {v : Value} (h : v.Plain) : v.datum.WrittenAs v.compact := by
  have hspells := spells_write h (.nil nofun : Spells [] [])
  rw [List.append_nil, List.append_nil] at hspells
  rwa [Datum.WrittenAs, Value.compact, String.toList_ofList]

/-- A reader of the text of a value is a reader of its node. -/
theorem decode_compact {α : Type} (reader : Nat → Reader α) {v : Value} (h : v.Plain) :
    decode reader v.compact = reader depthLimit v.node := by
  rw [Datum.decode_of_writtenAs reader (writtenAs_datum h), Value.node_datum]

end EventReport.Json

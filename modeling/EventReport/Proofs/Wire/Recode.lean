import EventReport.Proofs.Wire.Document

/-! # Records that are read and written again

`recode` reads a record from a text and writes it again. A record may be read from many texts: names
have aliases, fields may be absent, members may come in any order or be unknown, and the fields may
stand in an array. It is written in one way. A reader and a writer `Agree` if the written text is
read as the record, and is therefore what comes of every text that the record is read from.

What a writer writes has no numbers and few levels, so it is enough to look at nodes
(`Agree.of_node`). The records of which a request is made and its table all agree
(`records_agree`). -/

set_option autoImplicit false

namespace EventReport

open Json

namespace Json

variable {α : Type}

/-- Reads a value and writes it again. -/
def recode (reader : Nat → Reader α) (toJson : α → Value) (text : String) :
    Except DecodeError String := do
  let a ← decode reader text
  return (toJson a).compact

/-- What is written is read as the same value, also where the value was read before, and is written
again in the same way. -/
structure Agree (reader : Nat → Reader α) (toJson : α → Value) : Prop where
  decode_compact : ∀ a, decode reader (toJson a).compact = .ok a
  decode_recode : ∀ {text a}, decode reader text = .ok a →
    ∃ written, recode reader toJson text = .ok written ∧ decode reader written = .ok a
  recode_recode : ∀ {text written}, recode reader toJson text = .ok written →
    recode reader toJson written = .ok written

/-- **A reader that reads the node of every written value agrees with the writer.** -/
theorem Agree.of_node {reader : Nat → Reader α} {toJson : α → Value}
    (hplain : ∀ a, (toJson a).Plain) (h : ∀ a, reader depthLimit (toJson a).node = .ok a) :
    Agree reader toJson := by
  have hdecode : ∀ a, decode reader (toJson a).compact = .ok a := by
    intro a
    rw [Json.decode_compact reader (hplain a), h a]
  have hrecode : ∀ {text a}, decode reader text = .ok a →
      recode reader toJson text = .ok (toJson a).compact := by
    intro text a hread
    rw [recode, hread]
    rfl
  refine ⟨hdecode, fun hread => ⟨_, hrecode hread, hdecode _⟩, ?_⟩
  intro text written hwritten
  obtain ⟨a, -, hpure⟩ := bind_eq_ok.mp hwritten
  cases hpure
  exact hrecode (hdecode a)

end Json

/-! ## Records -/

theorem EventTable.plain_toJson (t : EventTable) : t.toJson.Plain := by
  simp [toJson]

theorem EventTable.read_toJson (depth : Nat) (t : EventTable) :
    EventTable.read (depth + 1) t.toJson.node = .ok t :=
  rfl

/-- **The records of a request and its table agree with their readers**: dimensions, metrics, sort
keys, tables, and the tests of texts, of numbers and against lists. -/
theorem records_agree :
    Agree Dimension.read Dimension.toJson ∧ Agree Metric.read Metric.toJson ∧
      Agree SortKey.read SortKey.toJson ∧ Agree EventTable.read EventTable.toJson ∧
      Agree TextTest.read TextTest.toJson ∧ Agree NumberTest.read NumberTest.toJson ∧
      Agree ListTest.read ListTest.toJson := by
  refine ⟨?_, ?_, ?_, ?_, ?_, ?_, ?_⟩
  · exact .of_node Dimension.plain_toJson (Dimension.read_toJson 126)
  · exact .of_node Metric.plain_toJson (Metric.read_toJson 126)
  · exact .of_node SortKey.plain_toJson (SortKey.read_toJson 126)
  · exact .of_node EventTable.plain_toJson (EventTable.read_toJson 126)
  · exact .of_node TextTest.plain_toJson (TextTest.read_toJson 126)
  · exact .of_node NumberTest.plain_toJson (NumberTest.read_toJson 126)
  · exact .of_node ListTest.plain_toJson (ListTest.read_toJson 125)

/-- Fields in an array, with an alias and an escape and one field absent. -/
example : (recode TextTest.read TextTest.toJson "[\"MATCH_EXACT\", \"\\u00e9\\/\\n\"]").toOption =
    some "\x7b\"matchType\":\"EXACT\",\"value\":\"é/\\n\",\"caseSensitive\":false\x7d" := by
  decide +kernel

end EventReport

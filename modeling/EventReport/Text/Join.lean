/-! # Joined texts

`joined sep parts` puts `sep` between neighbouring parts and nowhere else.
-/

namespace EventReport.Text

/-- The parts in order with `sep` between neighbours. -/
def joined (sep : String) : List String → String
  | [] => ""
  | [part] => part
  | part :: next :: rest => part ++ sep ++ joined sep (next :: rest)

@[simp] theorem joined_nil (sep : String) : joined sep [] = "" := rfl

@[simp] theorem joined_singleton (sep part : String) : joined sep [part] = part := rfl

theorem joined_cons_cons (sep part next : String) (rest : List String) :
    joined sep (part :: next :: rest) = part ++ sep ++ joined sep (next :: rest) := rfl

end EventReport.Text

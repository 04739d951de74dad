import EventReport.Text.CaseTable
import EventReport.Text.Ranges

/-! # Small letters

`lowercase` replaces every capital by its small form. The capital `İ` becomes two characters, and a
capital sigma that ends a word becomes the final form `ς`.
-/

namespace EventReport.Text

/-- The small form of a character apart from its neighbours. -/
def lowerChar (c : Char) : List Char :=
  if c.toNat < 0x80 then [c.toLower]
  else if c = 'İ' then ['i', '\u0307']
  else
    match lowerRuns.find? fun run =>
        run.first ≤ c.toNat && c.toNat ≤ run.last && (c.toNat - run.first) % run.stride == 0 with
    | some run => [Char.ofNat (Int.toNat (c.toNat + run.shift))]
    | none => [c]

/-- The nearest character that counts is a letter with case. -/
def letterNext (cs : List Char) : Bool :=
  match cs.dropWhile (inRanges caseIgnorable) with
  | [] => false
  | c :: _ => inRanges casedLetters c

/-- A sigma between these texts ends a word: `before` is read backwards. -/
def endsWord (before after : List Char) : Bool :=
  letterNext before && !letterNext after

/-- The small form of a text that follows `before`, which is given backwards. -/
def lowerAfter (before : List Char) : List Char → List Char
  | [] => []
  | c :: rest =>
    (if c = 'Σ' then [if endsWord before rest then 'ς' else 'σ'] else lowerChar c) ++
      lowerAfter (c :: before) rest

/-- The small form of a text. -/
def lowercase (cs : List Char) : List Char :=
  lowerAfter [] cs

end EventReport.Text

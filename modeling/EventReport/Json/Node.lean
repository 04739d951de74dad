import EventReport.Json.Token

/-! # A document as far as it can be read

A `Node` is a JSON value that may break off: the text is cut into tokens and arranged as far as it
makes sense, and the place where it stops is marked. A reader that walks the nodes in order
therefore meets the same first fault as one that reads the text from its beginning, whether the
fault lies in the text or in what the text holds. `Document.ofText` arranges a text.
-/

namespace EventReport.Json

/-- Where an array or object breaks off. `read` is the reason for a reader who has passed all its
members, `skipped` the reason for one who skips it, and a comma may have come last. -/
structure Stop where
  read : Break
  skipped : Break
  comma : Bool
  deriving DecidableEq, Repr

/-- A value as far as it can be read. An array or object without a stop is closed. A broken value
has three reasons: for a reader, for a reader of a name from a fixed list, and for one who skips. -/
inductive Node where
  | null
  | bool (b : Bool)
  | number (n : Numeral)
  | text (content : Option String)
  | array (items : List Node) (stop : Option Stop)
  | object (members : List (Option String × Node)) (stop : Option Stop)
  | broken (read variant skipped : Break)
  deriving Repr, Inhabited

/-- A value and whether anything but blanks follows it. -/
structure Document where
  root : Node
  trailing : Bool
  deriving Repr

/-! ## Arranging tokens -/

/-- An array or object that awaits the value it holds next; what came before is held backwards. -/
inductive Frame where
  | item (before : List Node)
  | member (before : List (Option String × Node)) (key : Option String)
  deriving Repr

/-- What comes next: a value, or the rest of an array or object, which may have just been opened. -/
inductive State where
  | value
  | items (before : List Node) (fresh : Bool)
  | members (before : List (Option String × Node)) (fresh : Bool)
  | key (before : List (Option String × Node))
  | colon (before : List (Option String × Node)) (key : Option String)
  deriving Repr

/-- The outcome of one token: more is to come, or the outermost value is complete, or it breaks
off. -/
inductive Outcome where
  | more (state : State) (frames : List Frame)
  | complete (root : Node)
  | stuck (root : Node)
  deriving Repr

/-- A value that ends in all the ways for one reason. -/
def Node.brokenFor (reason : Break) : Node :=
  .broken reason reason reason

/-- An array or object that breaks off for one reason. -/
def Stop.for (reason : Break) (comma : Bool) : Stop :=
  ⟨reason, reason, comma⟩

/-- The outermost value, when the innermost breaks off. -/
def unwind (skipped : Break) (node : Node) : List Frame → Node
  | [] => node
  | .item before :: frames =>
    unwind skipped (.array (node :: before).reverse (some (.for skipped false))) frames
  | .member before key :: frames =>
    unwind skipped (.object ((key, node) :: before).reverse (some (.for skipped false))) frames

/-- A value is complete. -/
def finish (node : Node) : List Frame → Outcome
  | [] => .complete node
  | .item before :: frames => .more (.items (node :: before) false) frames
  | .member before key :: frames => .more (.members ((key, node) :: before) false) frames

/-- The first token of a value. -/
def beginValue (frames : List Frame) : Token → Outcome
  | .null => finish .null frames
  | .bool b => finish (.bool b) frames
  | .number n => finish (.number n) frames
  | .text content => finish (.text content) frames
  | .openBracket => .more (.items [] true) frames
  | .openBrace => .more (.members [] true) frames
  | .brokenText read skipped => .stuck (unwind skipped (.broken read read skipped) frames)
  | .brokenBare read skipped => .stuck (unwind skipped (.broken read .malformed skipped) frames)
  | _ => .stuck (unwind .malformed (.brokenFor .malformed) frames)

/-- The token where a key is needed. -/
def beginMember (before : List (Option String × Node)) (comma : Bool) (frames : List Frame) :
    Token → Outcome
  | .text key => .more (.colon before key) frames
  | .brokenText read skipped =>
    .stuck (unwind skipped (.object before.reverse (some ⟨read, skipped, comma⟩)) frames)
  | _ => .stuck (unwind .malformed (.object before.reverse (some (.for .malformed comma))) frames)

/-- One token. -/
def step : State → List Frame → Token → Outcome
  | .value, frames, token => beginValue frames token
  | .items before _, frames, .closeBracket => finish (.array before.reverse none) frames
  | .items before true, frames, token => beginValue (.item before :: frames) token
  | .items before false, frames, .comma => .more .value (.item before :: frames)
  | .items before false, frames, _ =>
    .stuck (unwind .malformed (.array before.reverse (some (.for .malformed false))) frames)
  | .members before _, frames, .closeBrace => finish (.object before.reverse none) frames
  | .members before true, frames, token => beginMember before false frames token
  | .members before false, frames, .comma => .more (.key before) frames
  | .members before false, frames, _ =>
    .stuck (unwind .malformed (.object before.reverse (some (.for .malformed false))) frames)
  | .key before, frames, token => beginMember before true frames token
  | .colon before key, frames, .colon => .more .value (.member before key :: frames)
  | .colon before key, frames, _ =>
    .stuck (unwind .malformed (.brokenFor .malformed) (.member before key :: frames))

/-- The outermost value when the text ends before it is complete. -/
def endEarly : State → List Frame → Node
  | .value, frames => unwind .ended (.brokenFor .ended) frames
  | .items before _, frames =>
    unwind .ended (.array before.reverse (some (.for .ended false))) frames
  | .members before _, frames =>
    unwind .ended (.object before.reverse (some (.for .ended false))) frames
  | .key before, frames =>
    unwind .ended (.object before.reverse (some (.for .ended true))) frames
  | .colon before key, frames => unwind .ended (.brokenFor .ended) (.member before key :: frames)

/-- Arranges the tokens that follow. -/
def arrange : State → List Frame → List Token → Document
  | state, frames, [] => ⟨endEarly state frames, false⟩
  | state, frames, token :: rest =>
    match step state frames token with
    | .more state frames => arrange state frames rest
    | .complete root => ⟨root, rest ≠ []⟩
    | .stuck root => ⟨root, false⟩

namespace Document

/-- The document that a text spells. -/
def ofText (cs : List Char) : Document :=
  arrange .value [] (tokens cs)

/-- Reads the value and makes sure that nothing follows it. -/
def read {α : Type} (doc : Document) (reader : Node → Except DecodeError α) :
    Except DecodeError α := do
  let value ← reader doc.root
  if doc.trailing then throw (.broken .malformed) else pure value

end Document

end EventReport.Json

/-! # Options of a command line

A command knows a list of options, each with a name, perhaps a letter, and perhaps a value. `given`
reads the words of a command line against that list, up to the first word that does not fit. The
value of an option is joined to it or is the next word, which then must not look like an option.
-/

namespace EventReport.Cli

/-- What comes with an option: nothing, or a value, which is read. -/
inductive Form (α : Type) where
  | flag (meaning : α)
  | value (read : String → Option α)

/-- An option that a command knows. -/
structure Known (α : Type) where
  long : String
  short : Option Char := none
  form : Form α

/-- What a command line gives to a command. The first word that names a command comes with all words
after it. -/
inductive Given (α : Type) where
  | option (meaning : α)
  | operand (text : String)
  | command (name : String) (rest : List String)
  | fault

/-- A word of a command line by its form. -/
inductive Word where
  | escape
  | long (name : String) (value : Option String)
  | letters (letters : List Char)
  | plain (text : String)
  deriving DecidableEq, Repr

/-- The form of a word. A lone hyphen is a plain word. -/
def Word.of (text : String) : Word :=
  match text.toList with
  | ['-', '-'] => escape
  | '-' :: '-' :: cs =>
    let name := String.ofList (cs.takeWhile (· ≠ '='))
    match cs.dropWhile (· ≠ '=') with
    | [] => long name none
    | _ :: value => long name (some (String.ofList value))
  | '-' :: c :: cs => letters (c :: cs)
  | _ => plain text

variable {α : Type}

/-- The value of an option, if it can be read. -/
def readGiven (read : String → Option α) (value : String) : Given α :=
  match read value with
  | some meaning => .option meaning
  | none => .fault

/-- The reader of an option that waits for its value. -/
abbrev Pending (α : Type) := Option (String → Option α)

/-- What an option by name gives, and what waits for a value. -/
def givenLong (known : List (Known α)) (name : String) (value : Option String) :
    List (Given α) × Pending α :=
  match known.find? (·.long = name) with
  | none => ([.fault], none)
  | some option =>
    match option.form, value with
    | .flag meaning, none => ([.option meaning], none)
    | .flag _, some _ => ([.fault], none)
    | .value read, none => ([], some read)
    | .value read, some value => ([readGiven read value], none)

/-- What options by letters in one word give, and what waits for a value. The rest of the word after
the letter of an option with a value is the value; an equals sign may stand before it. -/
def givenLetters (known : List (Known α)) : List Char → List (Given α) × Pending α
  | [] => ([], none)
  | c :: cs =>
    match known.find? (·.short = some c) with
    | none => ([.fault], none)
    | some option =>
      match option.form, cs with
      | .flag meaning, cs =>
        let (more, pending) := givenLetters known cs
        (.option meaning :: more, pending)
      | .value read, [] => ([], some read)
      | .value read, '=' :: value => ([readGiven read (String.ofList value)], none)
      | .value read, value => ([readGiven read (String.ofList value)], none)

/-- What the words of a command line give. With `commands`, the first plain word names a command. -/
def given (known : List (Known α)) (commands : Bool) :
    (pending : Pending α) → List String → List (Given α)
  | none, [] => []
  | some _, [] => [.fault]
  | some read, word :: rest =>
    match Word.of word with
    | .plain text => readGiven read text :: given known commands none rest
    | _ => [.fault]
  | none, word :: rest =>
    match Word.of word with
    | .escape => rest.map .operand
    | .long name value =>
      let (found, pending) := givenLong known name value
      found ++ given known commands pending rest
    | .letters letters =>
      let (found, pending) := givenLetters known letters
      found ++ given known commands pending rest
    | .plain text =>
      if commands then [.command text rest] else .operand text :: given known commands none rest

end EventReport.Cli

import EventReport.Calendar.Date

/-! # What a run needs of its host

A `Host` gives a run the files, the standard input and the day. The program runs in any monad, so
that a run over files that are given as data is a pure function.
-/

namespace EventReport.Cli

/-- Why a text cannot be read. -/
inductive ReadError where
  | notFound
  | notDirectory
  | isDirectory
  | nameTooLong
  | notText
  | other (reason : String)
  deriving DecidableEq, Repr

/-- Words the reason. -/
def ReadError.message : ReadError → String
  | notFound => "No such file or directory (os error 2)"
  | notDirectory => "Not a directory (os error 20)"
  | isDirectory => "Is a directory (os error 21)"
  | nameTooLong => "File name too long (os error 36)"
  | notText => "stream did not contain valid UTF-8"
  | other reason => reason

/-- Bytes as a text. -/
def textOfBytes (bytes : ByteArray) : Except ReadError String :=
  match String.fromUTF8? bytes with
  | some text => pure text
  | none => throw .notText

/-- What a run needs of its host. -/
structure Host (m : Type → Type) where
  isThere : String → m Bool
  readFile : String → m (Except ReadError String)
  readInput : m (Except ReadError String)
  today : m Calendar.Date

end EventReport.Cli

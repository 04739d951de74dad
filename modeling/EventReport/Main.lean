import EventReport.Cli.Session
import Std.Time.DateTime.Timestamp

/-! # The program

Gives a run the files, the standard input and the clock of the system, prints its output and exits
with its code: 0 for an output, 1 for a failure, 2 for a misused command line.
-/

namespace EventReport.Cli

/-- Why the system does not give a text. A name that is too long may come with its code negated. -/
def readErrorOf : IO.Error → ReadError
  | .noFileOrDirectory .. => .notFound
  | .inappropriateType _ 20 _ => .notDirectory
  | .inappropriateType _ 21 _ => .isDirectory
  | e@(.invalidArgument _ code _) =>
    if code = 36 ∨ code + 36 = 0 then .nameTooLong else .other (toString e)
  | e => .other (toString e)

/-- Reads bytes as a text. -/
def readBytes (bytes : IO ByteArray) : IO (Except ReadError String) := do
  try
    return textOfBytes (← bytes)
  catch e =>
    return .error (readErrorOf e)

/-- There is something at a path. -/
def isThere (path : String) : IO Bool := do
  try
    let _ ← IO.FS.Handle.mk path .read
    return true
  catch e =>
    match readErrorOf e with
    | .notFound => return false
    | .notDirectory => return false
    | _ => return true

/-- Reads the standard input to its end. -/
def readInput : IO ByteArray := do
  let input ← IO.getStdin
  let mut bytes := ByteArray.empty
  repeat
    let chunk ← input.read 65536
    if chunk.isEmpty then break
    bytes := bytes ++ chunk
  return bytes

/-- The day by the clock of the system. -/
def currentDay : IO Calendar.Date := do
  let now ← Std.Time.Timestamp.now
  match Calendar.Date.ofEpochSeconds? now.toSecondsSinceUnixEpoch.val with
  | some day => return day
  | none => throw (IO.userError "the clock is out of range")

/-- The host that the system is. -/
def systemHost : Host IO where
  isThere := isThere
  readFile path := readBytes (IO.FS.readBinFile path)
  readInput := readBytes readInput
  today := currentDay

end EventReport.Cli

open EventReport.Cli in
/-- Runs the program. -/
def main (arguments : List String) : IO UInt32 := do
  let outcome ← run systemHost arguments
  IO.print outcome.output
  IO.eprint outcome.complaint
  return outcome.exitCode

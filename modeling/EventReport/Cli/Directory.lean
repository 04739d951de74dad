import EventReport.Cli.Host

/-! # A directory as data

A `Directory` holds files by their paths, as a list of names each. `Directory.find` follows a path:
a dot stays where it is, two dots lead to the directory above. Outside the directory nothing is
known but the directories above it.
-/

namespace EventReport.Cli

/-- The files of a directory and of those within it, by the names that lead to them. -/
structure Directory where
  files : List (List String × String)
  deriving DecidableEq, Repr

/-- What lies at a path. -/
inductive Entry where
  | file (text : String)
  | directory
  deriving DecidableEq, Repr

namespace Directory

/-- The names in a path between slashes. -/
def splitPath (path : String) : List String :=
  (path.toList.splitOnP (· = '/')).map String.ofList

/-- What lies at the end of names that are no dots. -/
def entry? (d : Directory) (names : List String) : Option Entry :=
  match d.files.lookup names with
  | some text => some (.file text)
  | none =>
    if names = [] ∨ d.files.any (fun (path, _) => names.isPrefixOf path) then some .directory
    else none

/-- The bytes that a name can have. -/
def nameLimit : Nat := 255

/-- The bytes that a path can have. -/
def pathLimit : Nat := 4095

/-- Follows names from a directory above. -/
def followAbove : List String → Except ReadError Entry
  | [] => pure .directory
  | name :: rest =>
    if name = "" ∨ name = "." ∨ name = ".." then followAbove rest
    else if nameLimit < name.utf8ByteSize then throw .nameTooLong
    else throw .notFound

/-- Follows names from the directory at `here`. -/
def follow (d : Directory) (here : List String) : List String → Except ReadError Entry
  | [] =>
    match d.entry? here with
    | some entry => pure entry
    | none => throw .notFound
  | name :: rest =>
    match d.entry? here with
    | none => throw .notFound
    | some (.file _) => throw .notDirectory
    | some .directory =>
      if name = "" ∨ name = "." then follow d here rest
      else if name = ".." then
        if here = [] then followAbove rest else follow d here.dropLast rest
      else if nameLimit < name.utf8ByteSize then throw .nameTooLong
      else follow d (here ++ [name]) rest

/-- What lies at a path. A slash in front leads to a directory above. -/
def find (d : Directory) (path : String) : Except ReadError Entry :=
  if pathLimit < path.utf8ByteSize then throw .nameTooLong
  else
    match splitPath path with
    | [""] => throw .notFound
    | "" :: names => followAbove names
    | names => d.follow [] names

/-- The directory that holds files by path. -/
def ofFiles (files : List (String × String)) : Directory where
  files := files.map fun (path, text) =>
    ((splitPath path).filter fun name => name ≠ "" ∧ name ≠ ".", text)

/-- A run in the directory, with a standard input and a day. -/
def host (d : Directory) (input : ByteArray) (today : Calendar.Date) : Host Id where
  isThere path := (d.find path).isOk
  readFile path :=
    match d.find path with
    | .ok (.file text) => .ok text
    | .ok .directory => .error .isDirectory
    | .error e => .error e
  readInput := textOfBytes input
  today := today

end Directory

end EventReport.Cli

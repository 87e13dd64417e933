namespace SchemaPlan

inductive FileError where
  | missing
  | notFolder
  | isFolder
  | nameTooLong
  | notText
deriving DecidableEq, Repr

namespace FileError

def message : FileError → String
  | .missing => "No such file or directory (os error 2)"
  | .notFolder => "Not a directory (os error 20)"
  | .isFolder => "Is a directory (os error 21)"
  | .nameTooLong => "File name too long (os error 36)"
  | .notText => "stream did not contain valid UTF-8"

end FileError

/-- A place on a disk, by the names that lead to it from the root. -/
abbrev Location := List String

inductive DiskEntry where
  | file (bytes : ByteArray)
  | folder

/-- What stands where, and the folder from which paths start. -/
structure Disk where
  entry : Location → Option DiskEntry
  here : Location

namespace Location

def splitSlashes : List Char → List (List Char)
  | [] => [[]]
  | c :: cs =>
    if c = '/' then [] :: splitSlashes cs
    else match splitSlashes cs with
      | [] => [[c]]
      | name :: names => (c :: name) :: names

def ofPath (here : Location) (path : String) : Location × List String :=
  match (splitSlashes path.toList).map String.ofList with
  | "" :: names => ([], names)
  | names => (here, names)

/-- One name further. An empty name and a dot stay where they are, two dots go back. -/
def step (loc : Location) (name : String) : Location :=
  if name = "" ∨ name = "." then loc
  else if name = ".." then loc.dropLast
  else loc ++ [name]

def target (here : Location) (path : String) : Location :=
  let (start, names) := ofPath here path
  names.foldl step start

/-- The longest name of an entry and the longest path, in bytes of UTF-8. -/
def maxName : Nat := 255

def maxPath : Nat := 4095

end Location

namespace Disk

variable (d : Disk)

/-- What stands at the end of a path. Every step but the last must lead to a folder, and a name
after a file, even an empty one, asks for a folder too. -/
def follow (loc : Location) : List String → Except FileError DiskEntry
  | [] =>
    match d.entry loc with
    | none => .error .missing
    | some e => .ok e
  | name :: names =>
    match d.entry loc with
    | none => .error .missing
    | some (.file _) => .error .notFolder
    | some .folder =>
      if Location.maxName < name.utf8ByteSize then .error .nameTooLong
      else follow (loc.step name) names

def read (path : String) : Except FileError ByteArray :=
  if path = "" then .error .missing
  else if Location.maxPath < path.utf8ByteSize then .error .nameTooLong
  else
    let (start, names) := Location.ofPath d.here path
    match d.follow start names with
    | .ok (.file bytes) => .ok bytes
    | .ok .folder => .error .isFolder
    | .error e => .error e

def readText (path : String) : Except FileError String :=
  match d.read path with
  | .error e => .error e
  | .ok bytes =>
    match String.fromUTF8? bytes with
    | some text => .ok text
    | none => .error .notText

/-- The disk with an empty file at a path where nothing stood before. -/
def create (path : String) : Disk :=
  let loc := Location.target d.here path
  if (d.entry loc).isSome then d
  else { d with entry := fun p => if p = loc then some (.file .empty) else d.entry p }

/-- The folder of `ofFiles`. No path names it from outside, and it lies below the root. -/
def ownFolder : Location := ["", ""]

def systemFolders : List Location :=
  [["bin"], ["dev"], ["etc"], ["home"], ["proc"], ["root"], ["sys"], ["tmp"], ["usr"], ["var"]]

def nullDevice : Location := ["dev", "null"]

/-- A disk where paths start in a folder that holds these files and nothing else. -/
def ofFiles (files : List (String × ByteArray)) : Disk where
  entry loc :=
    let located := (nullDevice, .empty) ::
      files.map fun (name, bytes) => (Location.target ownFolder name, bytes)
    match located.lookup loc with
    | some bytes => some (.file bytes)
    | none =>
      let folders := ownFolder :: systemFolders ++ located.map fun (p, _) => p.dropLast
      if folders.any loc.isPrefixOf then some .folder else none
  here := ownFolder

end Disk

end SchemaPlan

import Audience.CommandLine.Host
import Audience.Text.Split

set_option autoImplicit false

/-! # Folders as values

A folder holds files under paths; the directories in it are those that some file is in. Programs that
work on a host can be run on it, and give back the folder as they leave it. -/

namespace Audience.CommandLine

/-- What a file holds. -/
inductive Content where
  | text (s : String)
  | database (table : Mapping.Table)

/-- The files of a folder by the parts of their paths. -/
structure Folder where
  files : List (List String × Content)

namespace Folder

/-- The parts of a path. -/
def partsOf (path : String) : List String :=
  (Text.splitAt '/' path.toList).map String.ofList

/-- A folder with text files. -/
def ofTexts (files : List (String × String)) : Folder :=
  ⟨files.map fun f => (partsOf f.1, .text f.2)⟩

/-- Whether a directory is at a place in a folder. The folder itself always is one. -/
def isDirectory (place : List String) (f : Folder) : Bool :=
  place.isEmpty || f.files.any fun file => place.isPrefixOf file.1 && place != file.1

/-- Go one part of a path further. This takes a directory, and no path leads out of the folder. -/
def follow (f : Folder) (place : List String) (part : String) : Except FileFault (List String) :=
  if f.isDirectory place then
    if part.isEmpty ∨ part = "." then .ok place
    else if part = ".." then if place.isEmpty then .error .missing else .ok place.dropLast
    else .ok (place ++ [part])
  else if (f.files.lookup place).isSome then .error .notDirectory
  else .error .missing

/-- The place that a path leads to. A path that starts at a root leads out of the folder. -/
def locate (path : String) (f : Folder) : Except FileFault (List String) :=
  match partsOf path with
  | [] => .error .missing
  | "" :: _ => .error .missing
  | parts => parts.foldlM f.follow []

/-- The text of a file. -/
def read (path : String) (f : Folder) : Except FileFault String := do
  let place ← f.locate path
  match f.files.lookup place with
  | some (.text s) => return s
  | some (.database _) => throw .notText
  | none => throw (if f.isDirectory place then .directory else .missing)

/-- The table of a database. An empty file becomes a database, and so does a place where no file is
yet. -/
def table (path : String) (f : Folder) : Except DatabaseFault Mapping.Table :=
  match f.locate path with
  | .error _ => .error .unreachable
  | .ok place =>
    match f.files.lookup place with
    | some (.database t) => .ok t
    | some (.text s) => if s.isEmpty then .ok .empty else .error .notDatabase
    | none => if f.isDirectory place then .error .unreachable else .ok .empty

/-- Keep a table as the database at a path. -/
def save (path : String) (t : Mapping.Table) (f : Folder) : Folder :=
  match f.locate path with
  | .error _ => f
  | .ok place => ⟨(place, .database t) :: f.files.filter (·.1 != place)⟩

/-- The folder as a host, in a given year, with a standard input and a configuration file that the
environment names. -/
def host (year : Int) (input : String) (namedConfig : Option String) : Host (StateM Folder) where
  readFile path := return (← get).read path
  openDatabase path := return (← get).table path
  saveDatabase path t := modify (·.save path t)
  standardInput := pure input
  year := pure year
  namedConfig
  usualConfig := some ".config/segment-criteria/segc.toml"

end Folder

end Audience.CommandLine

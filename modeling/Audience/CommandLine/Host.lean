import Audience.Mapping.Table

set_option autoImplicit false

/-! # What the command line works on

Files, databases, standard input and the clock belong to a host. Everything else is computed, so the
same program runs on a real system and on a folder that is a plain value. -/

namespace Audience.CommandLine

/-- Why a file cannot be read as text. -/
inductive FileFault where
  | missing
  | directory
  | notDirectory
  | notText
  deriving DecidableEq

/-- The words for a file that cannot be read. -/
def FileFault.message : FileFault → String
  | .missing => "No such file or directory (os error 2)"
  | .directory => "Is a directory (os error 21)"
  | .notDirectory => "Not a directory (os error 20)"
  | .notText => "stream did not contain valid UTF-8"

/-- Whether the fault is that there is no such file. -/
def FileFault.isAbsence : FileFault → Bool
  | .missing => true
  | .notDirectory => true
  | _ => false

/-- Why a database cannot be opened. -/
inductive DatabaseFault where
  | unreachable
  | notDatabase
  deriving DecidableEq

/-- The words for a database at a path that cannot be opened. -/
def DatabaseFault.message (path : String) : DatabaseFault → String
  | .unreachable => s!"unable to open database file: {path}"
  | .notDatabase => "file is not a database"

/-- What a host can do. Opening a database that does not exist yet gives an empty table. -/
structure Host (m : Type → Type) where
  readFile : String → m (Except FileFault String)
  openDatabase : String → m (Except DatabaseFault Mapping.Table)
  saveDatabase : String → Mapping.Table → m Unit
  standardInput : m String
  year : m Int
  /-- The configuration file that the environment names. -/
  namedConfig : Option String
  /-- The configuration file that is looked for otherwise. -/
  usualConfig : Option String

end Audience.CommandLine

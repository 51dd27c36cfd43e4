import Std.Time.DateTime
import Audience.CommandLine.Run
import Audience.Mapping.TableText

set_option autoImplicit false

/-! # The program

The command line on a real system: files are read and written as they are, and the year comes from
the clock, in universal time. -/

namespace Audience.CommandLine

/-- The fault that an error of the system stands for. -/
def FileFault.ofError : IO.Error → FileFault
  | .inappropriateType _ code _ => if code = 21 then .directory else .notDirectory
  | _ => .missing

/-- Read a file as text. -/
def readTextFile (path : String) : IO (Except FileFault String) := do
  try
    match String.fromUTF8? (← IO.FS.readBinFile path) with
    | some text => return .ok text
    | none => return .error .notText
  catch e => return .error (.ofError e)

/-- Read the table in a file, which is made if there is none. -/
def readTable (path : String) : IO (Except DatabaseFault Mapping.Table) := do
  match ← readTextFile path with
  | .ok text =>
    match Mapping.Table.ofText? text with
    | some t => return .ok t
    | none => return .error .notDatabase
  | .error .missing =>
    try
      IO.FS.writeFile path ""
      return .ok .empty
    catch _ => return .error .unreachable
  | .error .notText => return .error .notDatabase
  | .error _ => return .error .unreachable

/-- The current year in universal time. -/
def currentYear : IO Int := do
  let now ← Std.Time.Timestamp.now
  return (Std.Time.PlainDate.ofEpochDay now.toDaysSinceUnixEpoch).year

/-- The directory of configuration files, if the environment says where it is. -/
def configDirectory : IO (Option String) := do
  match ← IO.getEnv "XDG_CONFIG_HOME", ← IO.getEnv "HOME" with
  | some directory, home =>
    if directory.startsWith "/" then return some directory else return home.map (· ++ "/.config")
  | none, home => return home.map (· ++ "/.config")

/-- All of standard input. -/
def readStandardInput : IO String := do
  (← IO.getStdin).readToEnd

/-- The system as a host. -/
def system : IO (Host IO) := do
  let namedConfig ← IO.getEnv "SEGC_CONFIG"
  let directory ← configDirectory
  return {
    readFile := readTextFile
    openDatabase := readTable
    saveDatabase path t := IO.FS.writeFile path t.text
    standardInput := readStandardInput
    year := currentYear
    namedConfig
    usualConfig := directory.map (· ++ "/segment-criteria/segc.toml") }

end Audience.CommandLine

/-- Run the program and say how it went. -/
def main (arguments : List String) : IO UInt32 := do
  let outcome ← Audience.CommandLine.run (← Audience.CommandLine.system) arguments
  IO.print outcome.output
  match outcome with
  | .failed f => IO.eprintln s!"error: {f.message}"
  | .refused => IO.eprintln "error: the arguments make no sense; see --help"
  | .printed _ => pure ()
  return outcome.exitCode

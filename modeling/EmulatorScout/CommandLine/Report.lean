import EmulatorScout.Config.Form
import EmulatorScout.Discovery
import EmulatorScout.Text.Quoted

/-!
# What a run reports

The texts that a run of the program produces: listings for standard output, exports, and the
diagnostic of a run that failed.
-/

set_option autoImplicit false

namespace EmulatorScout.CommandLine

/-! ## Standard output -/

/-- A text with the end of its line. -/
def printed (text : String) : String := text ++ "\n"

/-- JSON as it is printed. -/
def printedJson (value : Json) : String := printed (value.write .indented)

/-- A list of emulators, as JSON or with one emulator on each line. -/
def emulatorsText (json : Bool) (emulators : List Emulator) : String :=
  if json then printedJson (.array (emulators.map Emulator.toJson))
  else String.join (emulators.map fun emulator => printed emulator.line)

/-- A directory to scan, and whether it exists. -/
structure DirectoryStatus where
  /-- The path, as it is displayed. -/
  path : String
  /-- Whether a directory is there. -/
  existing : Bool
  deriving DecidableEq, Repr

/-- The status of a directory. -/
def DirectoryStatus.of (view : View) (path : Path) : DirectoryStatus :=
  ⟨path.shown, view.isDirectory path⟩

def DirectoryStatus.toJson (status : DirectoryStatus) : Json :=
  .object [("path", .string status.path), ("exists", .truth status.existing)]

def DirectoryStatus.line (status : DirectoryStatus) : String :=
  status.path ++ "\t" ++ (if status.existing then "exists" else "missing")

/-- The statuses of directories, as JSON or with one directory on each line. -/
def directoriesText (json : Bool) (statuses : List DirectoryStatus) : String :=
  if json then printedJson (.array (statuses.map DirectoryStatus.toJson))
  else String.join (statuses.map fun status => printed status.line)

/-- The remembered directories on one line. -/
def extraDirsLine (config : Config) : String :=
  "extra_dirs=" ++ String.intercalate "," config.extraDirs

/-- The file that a configuration is stored in on one line. -/
def pathLine (path : Path) : String := "path=" ++ path.shown

def jsonLine (enabled : Bool) : String := "json=" ++ if enabled then "true" else "false"

/-- The file that an export was written to on one line. -/
def exportedLine (path : Path) : String := "exported=" ++ path.shown

/-! ## Exports -/

/-- A discovery as it is exported at the given time. -/
def exportJson (time : Int) (discovery : Discovery) : Json :=
  .object
    [("exported_at_unix_millis", .integer time),
      ("directories", .array (discovery.directories.map fun path => .string path.shown)),
      ("emulators", .array (discovery.snapshot.sorted.map Emulator.toJson))]

def exportText (time : Int) (discovery : Discovery) : String :=
  (exportJson time discovery).write .indented

/-! ## Failures -/

/-- Why a run failed. -/
inductive Failure where
  /-- Discovery failed. -/
  | discovery (error : DiscoveryError)
  /-- A file could not be written. -/
  | file (error : FileError)
  /-- No emulator has the value of the property. -/
  | noMatch (key value : String)
  /-- No emulator has the process id. -/
  | noPid (pid : UInt32)
  deriving DecidableEq, Repr

/-- A failure of discovery with all its parts. -/
def discoveryDiagnostic : DiscoveryError → String
  | .unreadable path cause =>
    "Io \x7b path: " ++ Text.Quoted.path path.bytes ++ ", source: " ++ cause.diagnostic ++ " \x7d"
  | .noEmulators => "NoEmulators"

/-- The diagnostic of a failure. -/
def Failure.diagnostic : Failure → String
  | .discovery error => "Error: " ++ discoveryDiagnostic error
  | .file error => "Error: " ++ error.diagnostic
  | .noMatch key value =>
    "Error: " ++ Text.Quoted.message ("no emulator with " ++ key ++ "=" ++ value)
  | .noPid pid => "Error: " ++ Text.Quoted.message ("no emulator with pid " ++ toString pid.toNat)

end EmulatorScout.CommandLine

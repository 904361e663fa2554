import EmulatorScout.CommandLine.Action
import EmulatorScout.CommandLine.NoticeFilter
import EmulatorScout.CommandLine.Parse
import EmulatorScout.Config.Store
import EmulatorScout.Host

/-!
# Running the program

A run reads the command line, loads the configuration, and carries the command out step by step. Where it
ends is decided by the first step that fails, if one does; what it printed, mentioned and changed up to
there is what the process leaves behind.
-/

set_option autoImplicit false

namespace EmulatorScout.CommandLine

open CommandLine.Action (print printJson mention require requireSome attempt)

/-! ## Parts of a run -/

/-- The variable with directories for one run. -/
def dirsVariable : String := "AEMU_DISCOVERY_DIRS"

/-- The variable with directives about notices. -/
def noticesVariable : String := "RUST_LOG"

/-- The filter for the notices of a run, unless the directives are spoilt. -/
def noticeFilter? (host : Host) : Option NoticeFilter :=
  match host.value? noticesVariable with
  | some text => NoticeFilter.ofText? text
  | none => some NoticeFilter.silent

/-- The notice of a warning about the configuration file. -/
def configNotice (path : Path) : Config.LoadWarning → Notice
  | .unreadable => .configUnreadable path
  | .unusable => .configUnusable path

/-- The file with the configuration. -/
def configPath (host : Host) : Path := Home.configFile host.home?

/-- The configuration of a run, and a warning about its file. -/
def loadConfig (host : Host) : Config × Option Config.LoadWarning :=
  Config.load host.toView (configPath host) (host.value? dirsVariable)

/-- The directories to scan: the standard ones, those of the configuration, and those of the command
line. -/
def scanPaths (host : Host) (config : Config) (dirs : List Path) : List Path :=
  Directories.discovery host.environment ++ config.extraPaths host.home? ++ dirs

/-- The discovery of a run. -/
def discover (host : Host) (config : Config) (dirs : List Path) :
    Except DiscoveryError Discovery :=
  Discovery.inDirectories host.toView (scanPaths host config dirs)

/-! ## Commands -/

/-- Prints a list, as JSON or with one item on each line. -/
def printList {α : Type} (json : Bool) (toJson : α → Json) (line : α → String) (items : List α) :
    Action Unit :=
  if json then printJson (.array (items.map toJson)) else forM items fun item => print (line item)

def printEmulators (json : Bool) (emulators : List Emulator) : Action Unit :=
  printList json Emulator.toJson Emulator.line emulators

/-- Saves a configuration, if it is a changed one, and goes on with it. -/
def keepChanged (host : Host) : Config × Bool → Action Config
  | (config, true) => do
    attempt (config.save host.toView (configPath host))
    return config
  | (config, false) => return config

/-- Carries a command on the configuration out. -/
def runConfig (host : Host) (config : Config) : ConfigCommand → Action Unit
  | .print => do
    print (pathLine (configPath host))
    printJson config.toJson
  | .addDir dir => do
    let changed ← keepChanged host (config.addDir dir)
    print (extraDirsLine changed)
  | .removeDir dir => do
    let changed ← keepChanged host (config.removeDir dir)
    print (extraDirsLine changed)
  | .setJson enabled => do
    attempt ((config.setJson enabled).save host.toView (configPath host))
    print (jsonLine enabled)

/-- Scans the directories, and goes on with what was found in the order in which the host goes through
it. -/
def scanned (host : Host) (config : Config) (dirs : List Path) : Action Discovery := do
  let discovery ← require ((discover host config dirs).mapError .discovery)
  mention (.found discovery.snapshot.size discovery.directories.length)
  return discovery.arranged host.entryOrder

/-- Writes a discovery to a file. -/
def writeExport (host : Host) (path : Path) (discovery : Discovery) : Attempt :=
  AtomicWrite.write host.current host.files path
    (Bytes.ofString (exportText host.time discovery))

/-- Carries an invocation out under a configuration. -/
def execute (host : Host) (config : Config) (invocation : Invocation) : Action Unit :=
  let json := invocation.json || config.json
  match invocation.command with
  | .config command => runConfig host config command
  | .dirs =>
    printList json DirectoryStatus.toJson DirectoryStatus.line
      ((scanPaths host config invocation.dirs).map (DirectoryStatus.of host.toView))
  | .list => do
    let discovery ← scanned host config invocation.dirs
    printEmulators json discovery.snapshot.sorted
  | .find key value => do
    let discovery ← scanned host config invocation.dirs
    let emulator ← requireSome (.noMatch key value) (discovery.snapshot.find? key value)
    printEmulators json [emulator]
  | .pid pid => do
    let discovery ← scanned host config invocation.dirs
    let emulator ← requireSome (.noPid pid) (discovery.snapshot.findPid? (toString pid.toNat))
    printEmulators json [emulator]
  | .first => do
    let discovery ← scanned host config invocation.dirs
    let emulator ← require (discovery.first.mapError .discovery)
    printEmulators json [emulator]
  | .exportTo out => do
    let discovery ← scanned host config invocation.dirs
    let path := out.getD (Home.exportFile host.home? "emulators" host.time)
    attempt (writeExport host path discovery)
    print (exportedLine path)

/-- Mentions that the configuration file could not be used, if that is so. -/
def mentionWarning (host : Host) : Option Config.LoadWarning → Action Unit
  | some warning => mention (configNotice (configPath host) warning)
  | none => pure ()

/-- Carries an invocation out. -/
def perform (host : Host) (invocation : Invocation) : Action Unit := do
  mentionWarning host (loadConfig host).2
  execute host (loadConfig host).1 invocation

/-! ## Runs -/

/-- What a process leaves behind. -/
structure Exit where
  /-- The exit code. -/
  code : Nat
  /-- The standard output. -/
  output : String
  /-- The diagnostic of a run that failed. -/
  diagnostic? : Option String
  /-- What the user is told if the command line or the directives could not be used. -/
  complaint? : Option String
  /-- What was mentioned on the way and is shown. -/
  notices : List Notice
  /-- The changes to the file system. -/
  progress : Progress

def versionText : String := printed "aemu-cli 0.1.0"

def helpText : String :=
  printed
    ("Find running Android emulators\n\n"
      ++ "Usage: aemu-cli [--dir <DIR>]... [--json] <COMMAND>\n\n"
      ++ "Commands: dirs, list, find, pid, first, export, config, help")

/-- The end of a process whose command line led to no invocation. -/
def usageExit (host : Host) (error : UsageError) : Exit :=
  match error with
  | .versionWanted => ⟨0, versionText, none, none, [], Progress.start host.files⟩
  | .helpWanted => ⟨0, helpText, none, none, [], Progress.start host.files⟩
  | error => ⟨2, "", none, some error.message, [], Progress.start host.files⟩

/-- The end of a process that got as far as its command. What it printed is there whether it failed
afterwards or not. -/
def exitAfter (filter : NoticeFilter) : Except Failure Unit × Trace → Exit
  | (.ok (), trace) =>
    ⟨0, trace.output, none, none, filter.select trace.notices, trace.progress⟩
  | (.error failure, trace) =>
    ⟨1, trace.output, some failure.diagnostic, none, filter.select trace.notices, trace.progress⟩

/-- The end of a process whose directives about notices are spoilt. -/
def spoiltExit (host : Host) : Exit :=
  ⟨101, "", none, some "a directive about notices is torn", [], Progress.start host.files⟩

/-- A run of the program, from its arguments without its name to its end. The directives about
notices are read before the arguments. -/
def run (host : Host) (arguments : List Argument) : Exit :=
  match noticeFilter? host with
  | none => spoiltExit host
  | some filter =>
    match parse arguments with
    | .error error => usageExit host error
    | .ok invocation =>
      exitAfter filter ((perform host invocation).after (Trace.start host.files))

end EmulatorScout.CommandLine

import EmulatorScout.CommandLine.Run
import Std.Time.DateTime.Timestamp

/-!
# The program

The outer layer. It loads the parts of the host's file system that a run can look at into a file
system value, lets `CommandLine.run` decide on that value, makes the changes that the run made, and
prints what the run says. Nothing is decided here.
-/

set_option autoImplicit false

namespace EmulatorScout.Program

open CommandLine (Argument Invocation)

/-! ## Loading -/

/-- The absolute text of a location. -/
def textOf (location : Location) : String :=
  "/" ++ String.intercalate "/" (location.reverse.map Bytes.shown)

/-- What a link without a destination is loaded as: a name that no directory holds, or the link's own
name if following it never ends. -/
def lostLink (name : Name) (endless : Bool) : Node := .link (if endless then ⟨name⟩ else ⟨[0]⟩)

/-- Where the link at a location leads to: an absolute text, or nowhere, and then whether following
it never ends. -/
def destination (location : Location) : IO (Except Bool Path) := do
  let base ← IO.currentDir
  try
    discard (base / textOf location).metadata
    let real ← IO.FS.realPath (textOf location)
    return .ok (Path.ofString real.toString)
  catch
    | .noFileOrDirectory _ _ _ => return .error false
    | _ => return .error true

/-- Loads the nodes that a walk through the given names comes by. -/
partial def observe (files : FileSystem) (directory : Location) : List Name → IO FileSystem
  | [] => return files
  | name :: rest => do
    if name = [] ∨ name = dotName then observe files directory rest
    else if name = dotDotName then observe files directory.tail rest
    else
      let place := name :: directory
      let base ← IO.currentDir
      let kind? ←
        try pure (some (← (base / textOf place).symlinkMetadata).type)
        catch _ => pure none
      match kind? with
      | none => return files
      | some .dir => observe (files.insert place .directory) place rest
      | some .symlink =>
        match ← destination place with
        | .ok target => observe (files.insert place (.link target)) [] (target.segments ++ rest)
        | .error endless => return files.insert place (lostLink name endless)
      | some _ =>
        let content ← if rest = [] then IO.FS.readBinFile (textOf place) else pure .empty
        return files.insert place (.file content.toList)

/-- Loads the nodes that a walk along a path comes by. -/
def observePath (host : Host) (path : Path) : IO Host := do
  let files ← observe host.files (path.start host.current) path.segments
  return { host with files := files }

/-- Loads a file that a run may replace, together with the temporary file beside it. -/
def observeTarget (host : Host) (path : Path) : IO Host := do
  observePath (← observePath host path) (AtomicWrite.temporary path)

/-- Loads a directory with its marker files. -/
def observeDirectory (host : Host) (path : Path) : IO Host := do
  let host ← observePath host path
  match host.toView.directory? path with
  | none => return host
  | some location =>
    let base ← IO.currentDir
    let mut files := host.files
    for entry in ← (base / textOf location).readDir do
      if (MarkerFile.pid? entry.fileName).isSome then
        files ← observe files location [Bytes.ofString entry.fileName]
    return { host with files := files }

/-- The variables that a run can look at. -/
def variableNames : List String :=
  [Directories.emulatorHomeVariable, Directories.kitHomeVariable, Directories.deviceHomeVariable,
    Directories.homeVariable, Directories.runtimeVariable, CommandLine.dirsVariable,
    CommandLine.noticesVariable]

/-- The values of the variables that are set. -/
def loadVariables : IO (List (String × Bytes)) :=
  variableNames.filterMapM fun name => do
    return (← IO.getEnv name).map fun value => (name, Bytes.ofString value)

/-- The number of the user, from the host's description of this process. -/
def loadUser : IO Nat := do
  let status ← try IO.FS.readFile "/proc/self/status" catch _ => pure ""
  let numbers := (status.splitOn "\n").filterMap fun line =>
    match line.splitOn "\t" with
    | "Uid:" :: number :: _ => number.toNat?
    | _ => none
  return numbers.headD 0

/-- The host before any file was looked at. -/
def loadHost : IO Host := do
  let values ← loadVariables
  let current := (Path.ofString (← IO.currentDir).toString).segments.filter (· ≠ [])
  let time := (← Std.Time.Timestamp.now).toMillisecondsSinceUnixEpoch
  let files ← observe FileSystem.empty [] current
  return {
    files := files
    current := current.reverse
    order := ListingOrder.stored
    settings := fun name => values.lookup name
    user := ← loadUser
    time := time.val
    entryOrder := EntryOrder.stored }

/-- Loads what an invocation can look at: the configuration first, since it names directories. -/
def loadFor (host : Host) (invocation : Invocation) : IO Host := do
  let mut host ← observeTarget host (CommandLine.configPath host)
  if let some runtime := host.value? Directories.runtimeVariable then
    host ← observePath host (Path.ofString runtime)
  if let .exportTo out := invocation.command then
    host ← observeTarget host (out.getD (Home.exportFile host.home? "emulators" host.time))
  for path in CommandLine.scanPaths host (CommandLine.loadConfig host).1 invocation.dirs do
    host ← observeDirectory host path
  return host

/-! ## Effects -/

/-- Makes a change that the run made. -/
def apply : FileSystem.Change → IO Unit
  | .makeDirectory path => IO.FS.createDir path.shown
  | .writeFile path content => IO.FS.writeBinFile path.shown ⟨content.toArray⟩
  | .rename source target => IO.FS.rename source.shown target.shown

/-- Runs the program on the given arguments. -/
def run (arguments : List Argument) : IO UInt32 := do
  let mut host ← loadHost
  if let .ok invocation := CommandLine.parse arguments then
    host ← loadFor host invocation
  let exit := CommandLine.run host arguments
  for change in exit.progress.history.reverse do
    apply change.1
  for notice in exit.notices do
    IO.eprintln notice.text
  IO.print exit.output
  if let some diagnostic := exit.diagnostic? then
    IO.eprintln diagnostic
  if let some complaint := exit.complaint? then
    IO.eprintln ("error: " ++ complaint)
  return UInt32.ofNat exit.code

end EmulatorScout.Program

/-- The program. -/
def main (arguments : List String) : IO UInt32 :=
  EmulatorScout.Program.run (arguments.map EmulatorScout.Bytes.ofString)

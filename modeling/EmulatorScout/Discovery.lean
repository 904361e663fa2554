import EmulatorScout.Directories
import EmulatorScout.FileSystem.View
import EmulatorScout.MarkerFile
import EmulatorScout.PropertyFile
import EmulatorScout.Snapshot

/-!
# Discovery

A scan goes through a list of directories in order and reads every marker file in them. A directory
that is not there is passed over, and so is a marker's name on a directory and a marker file without
a property. The first file that counts for a process id decides; a later one is still read, and if it
cannot be read the scan fails.

A discovery is a list of directories, fixed when it is opened, with the snapshot of its latest scan
that succeeded. A scan that fails leaves the snapshot as it was.
-/

set_option autoImplicit false

namespace EmulatorScout

/-- Why nothing was discovered. -/
inductive DiscoveryError where
  /-- A marker file could not be read. -/
  | unreadable (path : Path) (cause : FileError)
  /-- No emulator is running. -/
  | noEmulators
  deriving DecidableEq, Repr

namespace DiscoveryError

/-- The message of an error. -/
def message : DiscoveryError → String
  | unreadable path cause => "Failed to read " ++ path.shown ++ ": " ++ cause.message
  | noEmulators => "No running emulators discovered"

end DiscoveryError

/-! ## Scanning -/

namespace Scan

/-- Takes one name in a directory into account. -/
def entry (view : View) (path : Path) (directory : Location) (found : Snapshot) (name : Name) :
    Except DiscoveryError Snapshot :=
  match name.text?.bind MarkerFile.pid? with
  | none => .ok found
  | some pid =>
    if view.files.isDirectoryAt (name :: directory) then .ok found
    else
      match view.content (path.child name) with
      | .error cause => .error (.unreadable (path.child name) cause)
      | .ok content =>
        if (PropertyFile.read content).isEmpty then .ok found
        else .ok (found.insertNew pid ⟨pid, PropertyFile.read content⟩)

/-- Takes one directory into account. -/
def directory (view : View) (found : Snapshot) (path : Path) : Except DiscoveryError Snapshot :=
  match view.directory? path with
  | none => .ok found
  | some location => (view.list location).foldlM (entry view path location) found

/-- The emulators whose marker files stand in the given directories. -/
def directories (view : View) (paths : List Path) : Except DiscoveryError Snapshot :=
  paths.foldlM (directory view) Snapshot.empty

end Scan

/-! ## Discoveries -/

/-- A list of directories with what the latest successful scan found there. -/
structure Discovery where
  /-- The directories, in the order in which they are scanned. -/
  directories : List Path
  /-- What was found. -/
  snapshot : Snapshot
  deriving DecidableEq

namespace Discovery

/-- A discovery over the given directories, scanned once. -/
def inDirectories (view : View) (directories : List Path) : Except DiscoveryError Discovery :=
  (Scan.directories view directories).map fun snapshot => ⟨directories, snapshot⟩

/-- A discovery over the directories that an environment gives, scanned once. -/
def inEnvironment (view : View) (environment : Environment) : Except DiscoveryError Discovery :=
  inDirectories view (Directories.discovery environment)

/-- Scans again. The discovery afterwards, and the error if the scan failed. -/
def rescan (view : View) (discovery : Discovery) : Discovery × Option DiscoveryError :=
  match Scan.directories view discovery.directories with
  | .ok snapshot => (⟨discovery.directories, snapshot⟩, none)
  | .error error => (discovery, some error)

/-- The discovery as what it found is gone through in a given order. -/
def arranged (discovery : Discovery) (order : EntryOrder) : Discovery :=
  ⟨discovery.directories, discovery.snapshot.arranged order⟩

/-- The first emulator that comes, or the error that there is none. -/
def first (discovery : Discovery) : Except DiscoveryError Emulator :=
  match discovery.snapshot.first? with
  | some emulator => .ok emulator
  | none => .error .noEmulators

/-- Some emulator of those that an environment leads to: the first one that comes in a given order. -/
def defaultEmulator (view : View) (environment : Environment) (order : EntryOrder) :
    Except DiscoveryError Emulator :=
  match inEnvironment view environment with
  | .ok discovery => (discovery.arranged order).first
  | .error error => .error error

end Discovery

end EmulatorScout

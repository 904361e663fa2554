import EmulatorScout.Directories
import EmulatorScout.FileSystem.View
import EmulatorScout.Snapshot

/-!
# Hosts

Everything outside the program that a run depends on: the file system as the program sees it, the
variables, the user, the clock, and the order in which the process goes through its maps. A run is a
function of its host and its arguments.
-/

set_option autoImplicit false

namespace EmulatorScout

/-- The surroundings of one run. -/
structure Host extends View where
  /-- The values of the variables that are set. -/
  settings : String → Option Bytes
  /-- The number of the user. -/
  user : Nat
  /-- The time of the run, in milliseconds. -/
  time : Int
  /-- The order in which the process goes through its maps. -/
  entryOrder : EntryOrder := EntryOrder.stored

namespace Host

/-- The value of a variable. One that is no text counts as unset. -/
def value? (host : Host) (key : String) : Option String := (host.settings key).bind Bytes.text?

/-- The home directory, if it is known. -/
def home? (host : Host) : Option String := host.value? Directories.homeVariable

/-- The host as an environment. The program runs on Linux. -/
def environment (host : Host) : Environment :=
  ⟨.linux, host.value?, some host.user, host.toView.pathExists⟩

end Host

end EmulatorScout

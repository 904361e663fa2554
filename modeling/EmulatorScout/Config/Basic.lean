import EmulatorScout.Home
import EmulatorScout.Text.Blank

/-!
# The configuration

What the program remembers from one run to the next: directories to scan in addition to the standard
ones, and whether output is JSON. A list of directories given for one run takes the place of the
remembered one for scanning. It is kept apart, so changes concern the remembered list alone.
-/

set_option autoImplicit false

namespace EmulatorScout

/-- A configuration. -/
structure Config where
  /-- The remembered directories. -/
  extraDirs : List String
  /-- Whether output is JSON. -/
  json : Bool
  /-- The directories for this run, if they were given. -/
  overrideDirs : Option (List String)
  deriving DecidableEq, Repr

namespace Config

/-- The configuration of a program that remembers nothing. -/
def default : Config := ⟨[], false, none⟩

/-- The directories to scan: the ones for this run, else the remembered ones. -/
def effectiveDirs (config : Config) : List String := config.overrideDirs.getD config.extraDirs

/-- The paths to scan. White space at the ends of an entry does not count, and neither does an entry
that has nothing else. -/
def extraPaths (config : Config) (home? : Option String) : List Path :=
  ((config.effectiveDirs.map Text.trimmed).filter (· ≠ "")).map (Home.expand home?)

/-- Whether a directory can be added: it is not blank and not yet remembered. -/
def accepts (config : Config) (dir : String) : Bool :=
  Text.trimmed dir ≠ "" && !config.extraDirs.contains (Text.trimmed dir)

/-- Remembers a directory, and tells whether that is new. -/
def addDir (config : Config) (dir : String) : Config × Bool :=
  if config.accepts dir then
    ({ config with extraDirs := config.extraDirs ++ [Text.trimmed dir] }, true)
  else (config, false)

/-- Forgets a directory, and tells whether it was remembered. -/
def removeDir (config : Config) (dir : String) : Config × Bool :=
  let kept := config.extraDirs.filter (· ≠ Text.trimmed dir)
  ({ config with extraDirs := kept }, kept.length ≠ config.extraDirs.length)

def setJson (config : Config) (json : Bool) : Config := { config with json := json }

/-- The configuration with the directories for this run, as the value of the variable that gives
them. -/
def override (config : Config) (dirs? : Option String) : Config :=
  { config with overrideDirs := dirs?.map Home.splitList }

end Config

end EmulatorScout
